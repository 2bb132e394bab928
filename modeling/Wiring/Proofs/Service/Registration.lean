import Wiring.Proofs.Lookup
import Wiring.Proofs.Result
import Wiring.Proofs.ServiceGraph.Report
import Wiring.Service.Registration

/-!
# What becomes of registered identifiers

Every round of registering adds the identifiers it is about and takes none away
(`Registrations.ids_register`). Completing the entries then keeps each identifier, or drops it with
an error, or warns that it is ambiguous (`Registrations.completed_build`), and the graph reports
only what stands for one thing. So no registered identifier disappears silently: it is planned, or
exactly one error is about it, or it is ambiguous with exactly one warning
(`Registrations.exists_unique_fate`).
-/

namespace Wiring

/-- Inserting an entry adds its identifier at the end, if it is new. -/
theorem ServiceMap.ids_insert {m : ServiceMap} {l : List String} (h : m.ids = l.eraseDups)
    (id : String) (entry : ServiceEntry) : (m.insert id entry).ids = (l ++ [id]).eraseDups := by
  change (place id entry m.entries).map (·.1) = _
  rw [map_place, eraseDups_concat]
  change (if id ∈ m.ids then m.ids else m.ids ++ [id]) = _
  simp only [h, List.mem_eraseDups]

namespace Registrations

/-- The identifiers that registering is about: concrete classes with their capabilities and parents,
what is declared by hand, and the builtin services. -/
inductive Registered (config : Config) (classes : List ClassDescriptor) : String → Prop
  | className {c : ClassDescriptor} : c ∈ classes → c.kind.isInstantiable = true →
      Registered config classes c.name
  | capability {c : ClassDescriptor} {id : String} : c ∈ classes → c.kind.isInstantiable = true →
      id ∈ c.capabilities → Registered config classes id
  | parent {c : ClassDescriptor} {id : String} : c ∈ classes → c.kind.isInstantiable = true →
      id ∈ c.parents → Registered config classes id
  | declared {d : ServiceDeclaration} : d ∈ config.services → Registered config classes d.id
  | alias {d : ServiceDeclaration} {id : String} : d ∈ config.services → id ∈ d.aliases →
      Registered config classes id
  | container : Registered config classes config.capabilities.container
  | config : Registered config classes config.capabilities.config

/-- The identifiers that registering is about, in order and each as often as it is met. -/
def mentioned (config : Config) (classes : List ClassDescriptor) : List String :=
  let concrete := classes.filter (·.kind.isInstantiable)
  concrete.flatMap (fun c => [c.name]) ++ concrete.flatMap (fun c => c.capabilities ++ c.parents) ++
    manualIds config ++ [config.capabilities.container, config.capabilities.config]

/-! ## The rounds of registering -/

section
variable {config : Config} {classes : List ClassDescriptor} {r r' : Registrations} {id : String}
  {l : List String}

/-- What each step adds at the end, all steps add. -/
theorem ids_foldl {α : Type} {f : Registrations → α → Registrations} {adds : α → List String}
    (hf : ∀ r l a, r.map.ids = l.eraseDups → (f r a).map.ids = (l ++ adds a).eraseDups)
    (h : r.map.ids = l.eraseDups) (as : List α) :
    (as.foldl f r).map.ids = (l ++ as.flatMap adds).eraseDups := by
  induction as generalizing r l with
  | nil => simpa using h
  | cons a rest ih => rw [List.foldl_cons, ih (hf r l a h), List.flatMap_cons, List.append_assoc]

/-- Adding a class adds its name, if it is new. -/
theorem ids_addClass (singleton : Bool) (r : Registrations) (l : List String) (c : ClassDescriptor)
    (h : r.map.ids = l.eraseDups) : (addClass singleton r c).map.ids = (l ++ [c.name]).eraseDups :=
  ServiceMap.ids_insert h ..

/-- A claim adds its identifier, if it is new. -/
theorem ids_claim (className : String) (r : Registrations) (l : List String) (id : String)
    (h : r.map.ids = l.eraseDups) : (claim className r id).map.ids = (l ++ [id]).eraseDups := by
  rw [claim]
  cases hclaimed : claimed? className (r.map.get? id) with
  | some entry => exact ServiceMap.ids_insert h ..
  | none =>
    -- nothing changes for what is registered already
    have hid : id ∈ r.map.ids := by
      rw [ServiceMap.mem_ids_iff]
      cases he : r.map.get? id with
      | none => rw [he] at hclaimed; cases hclaimed
      | some entry => rfl
    rw [h, List.mem_eraseDups] at hid
    rw [eraseDups_concat, if_pos hid]
    exact h

/-- The capabilities and parents of a class are added, as far as they are new. -/
theorem ids_addCapabilities (r : Registrations) (l : List String) (c : ClassDescriptor)
    (h : r.map.ids = l.eraseDups) :
    (addCapabilities r c).map.ids = (l ++ (c.capabilities ++ c.parents)).eraseDups := by
  have hids := ids_foldl (ids_claim c.name) h (c.capabilities ++ c.parents)
  rwa [List.flatMap_singleton'] at hids

/-- The identifier and the aliases of a declaration are added, as far as they are new. -/
theorem ids_addDeclaration {d : ServiceDeclaration} (h : r.map.ids = l.eraseDups)
    (hd : addDeclaration config classes r d = .ok r') :
    r'.map.ids = (l ++ d.id :: d.aliases).eraseDups := by
  obtain ⟨s, -, hd⟩ := Result.bind_eq_ok.1 hd
  cases hd
  have hservice : (r.addService d.id s (.manual d (manualParams? classes s))).map.ids =
    (l ++ [d.id]).eraseDups := ServiceMap.ids_insert h ..
  have hids := ids_foldl (f := fun r name => r.addEntry name (.alias d.id))
    (fun r l name h => ServiceMap.ids_insert h name _) hservice d.aliases
  rwa [List.flatMap_singleton', List.append_assoc, List.singleton_append] at hids

/-- The identifiers and aliases of declarations are added, as far as they are new. -/
theorem ids_addDeclarations {ds : List ServiceDeclaration} (h : r.map.ids = l.eraseDups)
    (hds : ds.foldlM (addDeclaration config classes) r = .ok r') :
    r'.map.ids = (l ++ ds.flatMap fun d => d.id :: d.aliases).eraseDups := by
  refine Result.foldlM_induction (fun done (r' : Registrations) =>
    r'.map.ids = (l ++ done.flatMap fun d => d.id :: d.aliases).eraseDups) (by simpa using h) ?_ hds
  intro done r₁ r₂ d _ hdone hd
  rw [ids_addDeclaration hdone hd, List.flatMap_append, List.flatMap_singleton, List.append_assoc]

/-- What is built in adds its identifier, if it is new. -/
theorem ids_addBuiltin (h : r.map.ids = l.eraseDups) (id : String) (which : Builtin) :
    (r.addBuiltin id which).map.ids = (l ++ [id]).eraseDups := by
  rw [addBuiltin]
  split
  · next hid =>
    have hmem : id ∈ l := by
      rw [← List.mem_eraseDups, ← h]
      exact ServiceMap.mem_ids_iff.2 hid
    rw [eraseDups_concat, if_pos hmem]
    exact h
  · exact ServiceMap.ids_insert h ..

/-- Identifiers are registered in the order in which they are first met. -/
theorem ids_register (h : register config classes = .ok r) :
    r.map.ids = (mentioned config classes).eraseDups := by
  obtain ⟨r₁, hdeclared, h⟩ := Result.bind_eq_ok.1 h
  cases h
  have hempty : ({} : Registrations).map.ids = ([] : List String).eraseDups := rfl
  have hclasses := ids_foldl (ids_addClass config.defaultSingleton) hempty
    (classes.filter (·.kind.isInstantiable))
  have hcapabilities := ids_foldl ids_addCapabilities hclasses
    (classes.filter (·.kind.isInstantiable))
  have hbuiltins := ids_addBuiltin (ids_addBuiltin (ids_addDeclarations hcapabilities hdeclared)
    config.capabilities.container .container) config.capabilities.config .config
  rw [List.append_assoc _ [_] [_]] at hbuiltins
  exact hbuiltins

/-- Exactly these identifiers are registered. -/
theorem mem_ids_register (h : register config classes = .ok r) :
    id ∈ r.map.ids ↔ Registered config classes id := by
  rw [ids_register h, List.mem_eraseDups]
  simp only [mentioned, manualIds, List.mem_append, List.mem_flatMap, List.mem_filter,
    List.mem_cons, List.not_mem_nil, or_false]
  constructor
  · rintro (((⟨c, ⟨hc, hk⟩, rfl⟩ | ⟨c, ⟨hc, hk⟩, hid | hid⟩) | ⟨d, hd, rfl | hid⟩) | rfl | rfl)
    · exact .className hc hk
    · exact .capability hc hk hid
    · exact .parent hc hk hid
    · exact .declared hd
    · exact .alias hd hid
    · exact .container
    · exact .config
  · intro hid
    cases hid with
    | className hc hk => exact .inl (.inl (.inl ⟨_, ⟨hc, hk⟩, rfl⟩))
    | capability hc hk hid => exact .inl (.inl (.inr ⟨_, ⟨hc, hk⟩, .inl hid⟩))
    | parent hc hk hid => exact .inl (.inl (.inr ⟨_, ⟨hc, hk⟩, .inr hid⟩))
    | declared hd => exact .inl (.inr ⟨_, hd, .inl rfl⟩)
    | «alias» hd hid => exact .inl (.inr ⟨_, hd, .inr hid⟩)
    | container => exact .inr (.inl rfl)
    | config => exact .inr (.inr rfl)

end

/-! ## Completing the entries -/

/-- The ways an entry can be completed: it is kept, it is kept with a warning, or it is dropped with
an error. -/
inductive Completes (map : ServiceMap) (ds : List Diagnostic) (id : String) :
    ServiceMap × List Diagnostic → Prop
  | kept {entry : ServiceEntry} : (∀ candidates, entry ≠ .ambiguous candidates) →
      Completes map ds id (map.insert id entry, ds)
  | ambiguous {candidates : List String} : Completes map ds id
      (map.insert id (.ambiguous candidates), ds ++ [.warning id (.ambiguous candidates)])
  | dropped {param : String} : Completes map ds id
      (map, ds ++ [.error id (.unresolvableParameter param)])

/-- What an identifier has come to in a map with diagnostics: it stands for one thing and no error
is about it; or it is missing and one error is; or it is ambiguous, with one warning. -/
inductive Completed (map : ServiceMap) (ds : List Diagnostic) (id : String) : Prop
  | definite : ServiceGraph.Definite map id → errorsAbout id ds = 0 → Completed map ds id
  | dropped : map.get? id = none → errorsAbout id ds = 1 → Completed map ds id
  | ambiguous {candidates : List String} : map.get? id = some (.ambiguous candidates) →
      errorsAbout id ds = 0 → warningsAbout id ds = 1 → Completed map ds id

/-- Nothing has been done about an identifier. -/
structure Untouched (map : ServiceMap) (ds : List Diagnostic) (id : String) : Prop where
  entry : map.get? id = none
  errors : errorsAbout id ds = 0
  warnings : warningsAbout id ds = 0

section
variable {map : ServiceMap} {ds : List Diagnostic} {id z : String}
  {x : ServiceMap × List Diagnostic}

@[simp] theorem errorsAbout_error (id z : String) (ds : List Diagnostic) (f : Finding) :
    errorsAbout z (ds ++ [.error id f]) = errorsAbout z ds + if id = z then 1 else 0 := by
  simp [errorsAbout, Diagnostic.error, Diagnostic.isError, List.countP_append, List.countP_cons]

@[simp] theorem errorsAbout_warning (id z : String) (ds : List Diagnostic) (f : Finding) :
    errorsAbout z (ds ++ [.warning id f]) = errorsAbout z ds := by
  simp [errorsAbout, Diagnostic.warning, Diagnostic.isError, List.countP_append]

@[simp] theorem warningsAbout_error (id z : String) (ds : List Diagnostic) (f : Finding) :
    warningsAbout z (ds ++ [.error id f]) = warningsAbout z ds := by
  simp [warningsAbout, Diagnostic.error, Diagnostic.isError, List.countP_append]

@[simp] theorem warningsAbout_warning (id z : String) (ds : List Diagnostic) (f : Finding) :
    warningsAbout z (ds ++ [.warning id f]) = warningsAbout z ds + if id = z then 1 else 0 := by
  simp [warningsAbout, Diagnostic.warning, Diagnostic.isError, List.countP_append, List.countP_cons]

/-- An entry is completed in one of the three ways. -/
theorem complete_completes {r : Registrations} {choice : BindingChoice} {entry : ServiceEntry}
    (h : complete r choice (map, ds) (id, entry) = .ok x) : Completes map ds id x := by
  cases entry with
  | ambiguous candidates => cases h; exact .ambiguous
  | «alias» target => cases h; exact .kept nofun
  | service s =>
    obtain ⟨params, -, h⟩ := Result.bind_eq_ok.1 h
    cases params with
    | ok params => cases h; exact .kept nofun
    | error param => cases h; exact .dropped

/-- Completing an entry is about its identifier only. -/
theorem Completes.other (h : Completes map ds id x) (hz : z ≠ id) : x.1.get? z = map.get? z ∧
    errorsAbout z x.2 = errorsAbout z ds ∧ warningsAbout z x.2 = warningsAbout z ds := by
  cases h with
  | kept _ => simp [ServiceMap.get?_insert, hz]
  | ambiguous => simp [ServiceMap.get?_insert, hz, hz.symm]
  | dropped => simp [hz.symm]

/-- An identifier that was untouched has come to something once its entry is completed. -/
theorem Completes.self (h : Completes map ds id x) (hid : Untouched map ds id) :
    Completed x.1 x.2 id := by
  cases h with
  | @kept entry hentry =>
    exact .definite ⟨entry, by simp [ServiceMap.get?_insert], hentry⟩ hid.errors
  | @ambiguous candidates =>
    have hentry : (map.insert id (.ambiguous candidates)).get? id =
      some (.ambiguous candidates) := by
      simp [ServiceMap.get?_insert]
    exact .ambiguous hentry (by simp [hid.errors]) (by simp [hid.warnings])
  | dropped => exact .dropped hid.entry (by simp [hid.errors])

/-- Completing another entry leaves an identifier as it is. -/
theorem Completes.completed (h : Completes map ds id x) (hz : z ≠ id) (hc : Completed map ds z) :
    Completed x.1 x.2 z := by
  obtain ⟨hentry, herrors, hwarnings⟩ := h.other hz
  cases hc with
  | definite hdef he => exact .definite (by rwa [ServiceGraph.Definite, hentry]) (herrors.trans he)
  | dropped hno he => exact .dropped (hentry.trans hno) (herrors.trans he)
  | ambiguous ha he hw => exact .ambiguous (hentry.trans ha) (herrors.trans he) (hwarnings.trans hw)

/-- Completing an entry does nothing about other identifiers. -/
theorem Completes.untouched (h : Completes map ds id x) (hz : z ≠ id) (hu : Untouched map ds z) :
    Untouched x.1 x.2 z := by
  obtain ⟨hentry, herrors, hwarnings⟩ := h.other hz
  exact ⟨hentry.trans hu.entry, herrors.trans hu.errors, hwarnings.trans hu.warnings⟩

/-- Different entries are completed one after the other. What is true of an entry when it has been
completed and stays true while others are is true of all of them in the end, and nothing is done
about any other identifier. -/
theorem foldlM_complete {r : Registrations} {choice : BindingChoice}
    (P : ServiceMap × List Diagnostic → String × ServiceEntry → Prop)
    (hself : ∀ {map ds e x}, r.complete choice (map, ds) e = .ok x → Untouched map ds e.1 → P x e)
    (hother : ∀ {map ds id x e}, Completes map ds id x → e.1 ≠ id → P (map, ds) e → P x e)
    {entries : List (String × ServiceEntry)} (hnd : (entries.map (·.1)).Nodup)
    (h : entries.foldlM (r.complete choice) ({}, []) = .ok x) :
    (∀ e ∈ entries, P x e) ∧ ∀ z ∉ entries.map (·.1), Untouched x.1 x.2 z := by
  refine Result.foldlM_induction
    (fun done (x : ServiceMap × List Diagnostic) => (done.map (·.1)).Nodup →
      (∀ e ∈ done, P x e) ∧ ∀ z ∉ done.map (·.1), Untouched x.1 x.2 z)
    (fun _ => ⟨nofun, fun _ _ => ⟨rfl, rfl, rfl⟩⟩) ?_ h hnd
  rintro done ⟨map, ds⟩ x ⟨id, entry⟩ _ hdone hx hnd
  have hc := complete_completes hx
  rw [List.map_append, List.map_singleton] at hnd ⊢
  obtain ⟨hnd, -, hnew⟩ := List.nodup_append.1 hnd
  have hnew : id ∉ done.map (·.1) := fun hmem => hnew id hmem id (.head _) rfl
  obtain ⟨hcompleted, huntouched⟩ := hdone hnd
  refine ⟨List.forall_mem_append.2 ⟨fun e he => ?_, ?_⟩, fun z hz => ?_⟩
  · exact hother hc (fun heq => hnew (heq ▸ List.mem_map_of_mem he)) (hcompleted e he)
  · exact List.forall_mem_singleton.2 (hself hx (huntouched id hnew))
  · obtain ⟨hz, hid⟩ := not_or.1 fun hor => hz (List.mem_append.2 hor)
    exact hc.untouched (fun heq => hid (heq ▸ .head _)) (huntouched z hz)

/-- Every registered identifier is completed. -/
theorem completed_build {config : Config} {classes : List ClassDescriptor}
    (h : build config classes = .ok x) (hid : Registered config classes id) :
    Completed x.1 x.2 id := by
  obtain ⟨r, hr, h⟩ := Result.bind_eq_ok.1 h
  obtain ⟨e, he, rfl⟩ := List.mem_map.1 ((mem_ids_register hr).2 hid)
  exact (foldlM_complete (fun x e => Completed x.1 x.2 e.1)
    (fun hx hu => (complete_completes hx).self hu) (fun hc hz h => hc.completed hz h)
    r.map.nodup h).1 e he

end

/-! ## No identifier disappears silently -/

/-- What can become of a registered identifier. -/
inductive Fate where
  | planned | reported | ambiguous
  deriving DecidableEq, Repr

/-- What a fate means for an identifier of a map: whether it is in the plan, and how many
diagnostics are about it. -/
def Fate.Holds (services : ServiceMap) (plan : ContainerPlan) (ds : List Diagnostic) (id : String) :
    Fate → Prop
  | .planned => plan.has id = true ∧ errorsAbout id ds = 0
  | .reported => plan.has id = false ∧ errorsAbout id ds = 1
  | .ambiguous => (∃ candidates, services.get? id = some (.ambiguous candidates)) ∧
      plan.has id = false ∧ warningsAbout id ds = 1 ∧ errorsAbout id ds = 0

/-- Fates exclude each other. -/
theorem Fate.unique {services : ServiceMap} {plan : ContainerPlan} {ds : List Diagnostic}
    {id : String} {a b : Fate} (ha : a.Holds services plan ds id)
    (hb : b.Holds services plan ds id) :
    a = b := by
  cases a <;> cases b <;> simp_all [Fate.Holds]

/-- Every registered identifier is planned with no error about it, or left out with exactly one, or
ambiguous with exactly one warning. -/
theorem exists_unique_fate {config : Config} {classes : List ClassDescriptor}
    {services : ServiceMap} {found : List Diagnostic}
    (h : build config classes = .ok (services, found)) {id : String}
    (hid : Registered config classes id) :
    ∃! fate : Fate, fate.Holds services (ServiceGraph.resolve services).1
      (found ++ (ServiceGraph.resolve services).2) id := by
  have herrors : ∀ ds, errorsAbout id (found ++ ds) = errorsAbout id found + errorsAbout id ds :=
    fun ds => List.countP_append
  have hwarnings : ∀ ds, warningsAbout id (found ++ ds) =
      warningsAbout id found + warningsAbout id ds := fun ds => List.countP_append
  refine existsUnique_of_exists_of_unique ?_ fun _ _ => Fate.unique
  cases completed_build h hid with
  | definite hdef he =>
    cases hhas : (ServiceGraph.resolve services).1.has id with
    | true => exact ⟨.planned, hhas, by rw [herrors, he, ServiceGraph.errorsAbout_of_has hhas]⟩
    | false =>
      exact ⟨.reported, hhas, by rw [herrors, he, ServiceGraph.errorsAbout_of_omitted hdef hhas]⟩
  | dropped hno he =>
    have hdef : ¬ ServiceGraph.Definite services id := by
      rintro ⟨_, hentry, -⟩
      rw [hno] at hentry
      cases hentry
    exact ⟨.reported, ServiceGraph.has_of_not_definite hdef,
      by rw [herrors, he, ServiceGraph.errorsAbout_of_not_definite hdef]⟩
  | @ambiguous candidates ha he hw =>
    have hdef : ¬ ServiceGraph.Definite services id := by
      rintro ⟨_, hentry, hne⟩
      rw [ha] at hentry
      cases hentry
      exact hne _ rfl
    exact ⟨.ambiguous, ⟨candidates, ha⟩, ServiceGraph.has_of_not_definite hdef,
      by rw [hwarnings, hw, ServiceGraph.warningsAbout_resolve],
      by rw [herrors, he, ServiceGraph.errorsAbout_of_not_definite hdef]⟩

/-- Two ways to send mail, a newsletter that asks for one of them, and a queue of unknown size. -/
def mailers : List ClassDescriptor := [
  { name := "Smtp", kind := .concrete, capabilities := ["Mailer"] },
  { name := "Ses", kind := .concrete, capabilities := ["Mailer"] },
  { name := "Newsletter", kind := .concrete,
    constructor := [{ name := "mailer", type := .named "Mailer" }] },
  { name := "Queue", kind := .concrete,
    constructor := [{ name := "size", type := .primitive .int }] }]

/-- The mailers, the newsletter and the queue have one fate each. -/
theorem exists_unique_fate_mailers : ∃ services found,
    build {} mailers = .ok (services, found) ∧ Registered {} mailers "Mailer" ∧
      Registered {} mailers "Newsletter" ∧ Registered {} mailers "Queue" ∧
      ∀ id, Registered {} mailers id → ∃! fate : Fate, fate.Holds services
        (ServiceGraph.resolve services).1 (found ++ (ServiceGraph.resolve services).2) id := by
  have hok : (build {} mailers).isOk = true := by decide +kernel
  obtain ⟨⟨services, found⟩, h⟩ := Result.isOk_iff.1 hok
  have hmailer : Registered {} mailers "Mailer" :=
    .capability (.head _) (by decide) (.head _)
  have hnewsletter : Registered {} mailers "Newsletter" :=
    .className (.tail _ (.tail _ (.head _))) (by decide)
  have hqueue : Registered {} mailers "Queue" :=
    .className (.tail _ (.tail _ (.tail _ (.head _)))) (by decide)
  exact ⟨services, found, h, hmailer, hnewsletter, hqueue, fun _ hid => exists_unique_fate h hid⟩

end Registrations

end Wiring
