import Mathlib.Logic.Relation
import Wiring.Proofs.Config.Check
import Wiring.Proofs.Service.Registration

/-!
# What becomes of declared services

Declarations are registered in order, each under its identifier and then under its aliases, and
whatever an identifier stood for before is replaced. So the last declaration that mentions an
identifier decides what it stands for (`Registrations.get?_register_of_mentions`), and completing
the entries changes nothing but the parameters of services (`Registrations.completedAs_build`).

A checked configuration declares no identifier twice, but an alias may be the identifier of an
earlier declaration or of its own. Such a declaration is lost, and so is an alias that is mentioned
again; all others are kept (`Registrations.kept_build_iff`).
-/

namespace Wiring

namespace ServiceDeclaration

/-- A declaration says what an identifier stands for. -/
def Mentions (d : ServiceDeclaration) (id : String) : Prop :=
  id = d.id ∨ id ∈ d.aliases

/-- A service is the one that is declared, its parameters and whether it is built once apart. -/
structure Describes (d : ServiceDeclaration) (s : ServiceDescriptor) : Prop where
  origin : s.origin = .manual
  className : s.className = d.className
  factory : s.factory? = d.factoryTarget?.map fun (owner, method) => ⟨owner, method⟩

/-- What a declaration of the given service makes of an identifier that it mentions. An alias counts
even if it is the identifier of the declaration. -/
def entry (d : ServiceDeclaration) (s : ServiceDescriptor) (id : String) : ServiceEntry :=
  if id ∈ d.aliases then .alias d.id else .service s

end ServiceDeclaration

/-- The first identifier is registered as another name of the second. -/
def ServiceMap.Renames (m : ServiceMap) (id target : String) : Prop :=
  m.get? id = some (.alias target)

namespace Registrations

/-- The service that is declared by hand. -/
def declaredService (config : Config) (classes : List ClassDescriptor) (d : ServiceDeclaration) :
    ServiceDescriptor where
  className := d.className
  singleton := (d.singleton?.or ((class? classes d.className).bind (·.singletonHint?))).getD
    config.defaultSingleton
  factory? := d.factoryTarget?.map fun (owner, method) => ⟨owner, method⟩
  origin := .manual

/-- What a declaration says of identifiers, in order: its own stands for the service, and each alias
for its own. -/
def mentions (config : Config) (classes : List ClassDescriptor) (d : ServiceDeclaration) :
    List (String × ServiceEntry) :=
  (d.id, .service (declaredService config classes d)) :: d.aliases.map fun a => (a, .alias d.id)

/-! ## The last mention decides -/

section
variable {config : Config} {classes : List ClassDescriptor} {r r' : Registrations}
  {d : ServiceDeclaration} {s : ServiceDescriptor} {id z : String}

/-- Adding a service changes what its identifier stands for, and nothing else. -/
theorem get?_addService (r : Registrations) (id : String) (s : ServiceDescriptor)
    (source : ParamSource) (z : String) : (r.addService id s source).map.get? z =
      if z = id then some (.service s) else r.map.get? z :=
  ServiceMap.get?_insert ..

/-- Adding an entry changes what its identifier stands for, and nothing else. -/
theorem get?_addEntry (r : Registrations) (id : String) (entry : ServiceEntry) (z : String) :
    (r.addEntry id entry).map.get? z = if z = id then some entry else r.map.get? z :=
  ServiceMap.get?_insert ..

/-- Adding aliases makes these names stand for the target, and changes nothing else. -/
theorem get?_addAliases (target : String) (names : List String) (r : Registrations) (z : String) :
    (names.foldl (fun r name => r.addEntry name (.alias target)) r).map.get? z =
      if z ∈ names then some (.alias target) else r.map.get? z := by
  induction names generalizing r with
  | nil => rfl
  | cons name rest ih =>
    rw [List.foldl_cons, ih, get?_addEntry]
    by_cases hrest : z ∈ rest
    · rw [if_pos hrest, if_pos (.tail _ hrest)]
    · rw [if_neg hrest]
      simp only [List.mem_cons, hrest, or_false]

/-- The service of a declaration that is accepted is the declared one. -/
theorem manualService_eq_ok (h : manualService config classes d = .ok s) :
    s = declaredService config classes d := by
  simp only [manualService] at h
  -- what is known of the class and of the factory decides only whether there is an error
  repeat' split at h
  all_goals cases h
  all_goals rfl

/-- What the aliases of a declaration say, whichever is met first. -/
theorem lookup_aliases (names : List String) (target z : String) :
    (names.map fun a => (a, ServiceEntry.alias target)).reverse.lookup z =
      if z ∈ names then some (.alias target) else none := by
  induction names with
  | nil => rfl
  | cons name rest ih =>
    rw [List.map_cons, List.reverse_cons, List.lookup_append, ih, lookup_cons_ite, List.lookup_nil]
    by_cases hrest : z ∈ rest
    · rw [if_pos hrest, if_pos (List.mem_cons_of_mem _ hrest), Option.some_or]
    · rw [if_neg hrest, Option.none_or]
      simp only [List.mem_cons, hrest, or_false]

/-- What a declaration says last of an identifier. Its aliases come after its own identifier. -/
theorem lookup_mentions (config : Config) (classes : List ClassDescriptor) (d : ServiceDeclaration)
    (z : String) : (mentions config classes d).reverse.lookup z =
      if z ∈ d.aliases then some (.alias d.id)
      else if z = d.id then some (.service (declaredService config classes d)) else none := by
  rw [mentions, List.reverse_cons, List.lookup_append, lookup_aliases, lookup_cons_ite,
    List.lookup_nil]
  split
  · exact Option.some_or
  · exact Option.none_or

/-- What a declaration mentions stands for its service or for its own identifier. -/
theorem lookup_mentions_of_mentions (hz : d.Mentions z) :
    (mentions config classes d).reverse.lookup z =
      some (d.entry (declaredService config classes d) z) := by
  rw [lookup_mentions, ServiceDeclaration.entry]
  split
  · rfl
  · next halias => rw [if_pos (hz.resolve_right halias)]

/-- What no declaration mentions is not found among what they mention. -/
theorem lookup_mentions_of_not_mentions {ds : List ServiceDeclaration}
    (hz : ∀ d ∈ ds, ¬ d.Mentions z) :
    (ds.flatMap (mentions config classes)).reverse.lookup z = none := by
  refine List.lookup_eq_none_iff.2 fun m hm => bne_iff_ne.2 ?_
  rintro rfl
  obtain ⟨d, hd, hm⟩ := List.mem_flatMap.1 (List.mem_reverse.1 hm)
  refine hz d hd ?_
  rcases List.mem_cons.1 hm with rfl | hm
  · exact .inl rfl
  · obtain ⟨a, ha, rfl⟩ := List.mem_map.1 hm
    exact .inr ha

/-- A declaration replaces what it mentions by what it says last. -/
theorem get?_addDeclaration (h : addDeclaration config classes r d = .ok r') (z : String) :
    r'.map.get? z = ((mentions config classes d).reverse.lookup z).or (r.map.get? z) := by
  obtain ⟨s, hs, h⟩ := Result.bind_eq_ok.1 h
  cases h
  rw [get?_addAliases, get?_addService, manualService_eq_ok hs, lookup_mentions]
  split
  · rfl
  · split <;> rfl

/-- The last declaration that mentions an identifier counts, or else what it stood for before. -/
theorem get?_addDeclarations {ds : List ServiceDeclaration}
    (h : ds.foldlM (addDeclaration config classes) r = .ok r') (z : String) :
    r'.map.get? z =
      ((ds.flatMap (mentions config classes)).reverse.lookup z).or (r.map.get? z) := by
  refine Result.foldlM_induction (fun done (r' : Registrations) => r'.map.get? z =
    ((done.flatMap (mentions config classes)).reverse.lookup z).or (r.map.get? z)) rfl ?_ h
  intro done r₁ r₂ d _ hdone hd
  rw [get?_addDeclaration hd, hdone, List.flatMap_append, List.flatMap_singleton,
    List.reverse_append, List.lookup_append, Option.or_assoc]

/-- A builtin service is registered only under an identifier that is free. -/
theorem get?_addBuiltin (r : Registrations) (id : String) (which : Builtin) (z : String) :
    (r.addBuiltin id which).map.get? z = (r.map.get? z).or
      (if z = id then some (.service { className := id, origin := .builtin which }) else none) := by
  rw [addBuiltin]
  split
  · next hid =>
    split
    · next hz =>
      subst hz
      exact (Option.or_of_isSome hid).symm
    · exact Option.or_none.symm
  · next hid =>
    rw [get?_addService]
    split
    · next hz =>
      subst hz
      rw [Option.not_isSome_iff_eq_none.1 hid, Option.none_or]
    · exact Option.or_none.symm

/-- The last declaration that mentions an identifier decides what it stands for. -/
theorem get?_register_of_mentions {earlier later : List ServiceDeclaration}
    (h : register config classes = .ok r) (hd : config.services = earlier ++ d :: later) :
    ∃ s, d.Describes s ∧ ∀ z, d.Mentions z → (∀ e ∈ later, ¬ e.Mentions z) →
      r.map.get? z = some (d.entry s z) := by
  obtain ⟨r₁, hdeclared, h⟩ := Result.bind_eq_ok.1 h
  cases h
  refine ⟨declaredService config classes d, ⟨rfl, rfl, rfl⟩, fun z hz hlater => ?_⟩
  rw [get?_addBuiltin, get?_addBuiltin, get?_addDeclarations hdeclared, hd, List.flatMap_append,
    List.flatMap_cons, List.reverse_append, List.reverse_append, List.append_assoc,
    List.lookup_append, lookup_mentions_of_not_mentions hlater, List.lookup_append,
    lookup_mentions_of_mentions hz]
  rfl

end

/-! ## Completing entries -/

/-- What an entry has come to in a map with diagnostics: a service has got its parameters or is
missing and reported, anything else stands for what it was registered as. -/
def CompletedAs (x : ServiceMap × List Diagnostic) (id : String) : ServiceEntry → Prop
  | .service s => (∃ params, x.1.get? id = some (.service { s with params })) ∨
      x.1.get? id = none ∧ ∃ param, Diagnostic.error id (.unresolvableParameter param) ∈ x.2
  | entry => x.1.get? id = some entry

section
variable {map : ServiceMap} {ds : List Diagnostic} {id z : String} {entry : ServiceEntry}
  {x : ServiceMap × List Diagnostic}

/-- Completing an entry only adds diagnostics. -/
theorem Completes.diagnostics (h : Completes map ds id x) : ∃ more, x.2 = ds ++ more := by
  cases h with
  | kept _ => exact ⟨[], (List.append_nil ds).symm⟩
  | ambiguous | dropped => exact ⟨_, rfl⟩

/-- Completing another entry leaves what an entry has come to. -/
theorem Completes.completedAs (h : Completes map ds id x) (hz : z ≠ id)
    (hc : CompletedAs (map, ds) z entry) : CompletedAs x z entry := by
  have hentry : x.1.get? z = map.get? z := (h.other hz).1
  cases entry with
  | service s =>
    obtain ⟨more, hmore⟩ := h.diagnostics
    refine hc.imp (fun ⟨params, hparams⟩ => ⟨params, hentry.trans hparams⟩) ?_
    rintro ⟨hno, param, hmem⟩
    exact ⟨hentry.trans hno, param, hmore ▸ List.mem_append_left _ hmem⟩
  | ambiguous candidates | «alias» target => exact hentry.trans hc

/-- An entry comes to a service with its parameters, to an error, or to what it was registered as.
-/
theorem completedAs_complete {r : Registrations} {choice : BindingChoice}
    (h : complete r choice (map, ds) (id, entry) = .ok x) (hid : map.get? id = none) :
    CompletedAs x id entry := by
  cases entry with
  | ambiguous _ | «alias» _ =>
    cases h
    exact (ServiceMap.get?_insert ..).trans (if_pos rfl)
  | service s =>
    obtain ⟨params, -, h⟩ := Result.bind_eq_ok.1 h
    cases params with
    | ok params =>
      cases h
      exact .inl ⟨params, (ServiceMap.get?_insert ..).trans (if_pos rfl)⟩
    | error param =>
      cases h
      exact .inr ⟨hid, param, List.mem_append_right _ (.head _)⟩

end

section
variable {config : Config} {classes : List ClassDescriptor} {services : ServiceMap}
  {found : List Diagnostic} {earlier later : List ServiceDeclaration} {d : ServiceDeclaration}
  {a z : String}

/-- What the last declaration that mentions an identifier says of it is completed. -/
theorem completedAs_build (h : build config classes = .ok (services, found))
    (hd : config.services = earlier ++ d :: later) :
    ∃ s, d.Describes s ∧ ∀ z, d.Mentions z → (∀ e ∈ later, ¬ e.Mentions z) →
      CompletedAs (services, found) z (d.entry s z) := by
  obtain ⟨r, hr, h⟩ := Result.bind_eq_ok.1 h
  obtain ⟨s, hs, hentry⟩ := get?_register_of_mentions hr hd
  refine ⟨s, hs, fun z hz hlater => ?_⟩
  have hmem := ServiceMap.get?_eq_some_iff.1 (hentry z hz hlater)
  exact (foldlM_complete (fun x e => CompletedAs x e.1 e.2)
    (fun hx hu => completedAs_complete hx hu.entry) (fun hc hz h => hc.completedAs hz h)
    r.map.nodup h).1 _ hmem

/-! ## Which declarations are kept -/

/-- The identifier of a declaration stands for the service that is declared, or it is reported that
a parameter has no binding. -/
def Kept (services : ServiceMap) (found : List Diagnostic) (d : ServiceDeclaration) : Prop :=
  (∃ s, services.get? d.id = some (.service s) ∧ d.Describes s) ∨
    ∃ param, Diagnostic.error d.id (.unresolvableParameter param) ∈ found

/-- What is mentioned has a last mention. -/
theorem exists_last_mention {ds : List ServiceDeclaration} (h : ∃ e ∈ ds, e.Mentions z) :
    ∃ before e after, ds = before ++ e :: after ∧ e.Mentions z ∧ ∀ e' ∈ after, ¬ e'.Mentions z := by
  induction ds with
  | nil =>
    obtain ⟨e, he, -⟩ := h
    cases he
  | cons d rest ih =>
    by_cases hrest : ∃ e ∈ rest, e.Mentions z
    · obtain ⟨before, e, after, rfl, he⟩ := ih hrest
      exact ⟨d :: before, e, after, rfl, he⟩
    · obtain ⟨e, he, hez⟩ := h
      rcases List.mem_cons.1 he with rfl | he
      · exact ⟨[], e, rest, rfl, hez, fun e' he' hz => hrest ⟨e', he', hz⟩⟩
      · exact absurd ⟨e, he, hez⟩ hrest

/-- A later declaration has another identifier. -/
theorem ne_id_of_nodup (hnd : (config.services.map (·.id)).Nodup)
    (hd : config.services = earlier ++ d :: later) : ∀ e ∈ later, e.id ≠ d.id := by
  intro e he heq
  rw [hd, List.map_append, List.map_cons] at hnd
  have hnew := (List.nodup_cons.1 (List.nodup_append.1 hnd).2.1).1
  exact hnew (heq ▸ List.mem_map_of_mem he)

/-- An identifier that a declaration lists among its aliases, and that no later one mentions, is
another name of the declared service. -/
theorem renames_build (h : build config classes = .ok (services, found))
    (hd : config.services = earlier ++ d :: later) (ha : a ∈ d.aliases)
    (hlater : ∀ e ∈ later, ¬ e.Mentions a) : services.Renames a d.id := by
  obtain ⟨s, -, hcompleted⟩ := completedAs_build h hd
  have hc := hcompleted a (.inr ha) hlater
  rwa [ServiceDeclaration.entry, if_pos ha] at hc

/-- An identifier that later declarations mention is another name of an identifier that they
mention, and so not of an earlier declaration. -/
theorem mentions_of_renames (hnd : (config.services.map (·.id)).Nodup)
    (h : build config classes = .ok (services, found))
    (hd : config.services = earlier ++ d :: later) {target : String}
    (hz : ∃ e ∈ later, e.Mentions z) (hrenames : services.Renames z target) :
    target ≠ d.id ∧ ∃ e ∈ later, e.Mentions target := by
  obtain ⟨before, e, after, rfl, hez, hafter⟩ := exists_last_mention hz
  have hmem : e ∈ before ++ e :: after := List.mem_append_right _ (.head _)
  have hsplit : config.services = (earlier ++ d :: before) ++ e :: after := by
    rw [hd, List.append_assoc, List.cons_append]
  obtain ⟨s, -, hcompleted⟩ := completedAs_build h hsplit
  have hc := hcompleted z hez hafter
  rw [ServiceDeclaration.entry] at hc
  split at hc
  · have heq : some (ServiceEntry.alias target) = some (.alias e.id) := hrenames.symm.trans hc
    cases heq
    exact ⟨ne_id_of_nodup hnd hd e hmem, e, hmem, .inl rfl⟩
  · rcases hc with ⟨params, hservice⟩ | ⟨hno, -⟩
    · cases hrenames.symm.trans hservice
    · cases hrenames.symm.trans hno

/-- Other names of an identifier that later declarations mention never lead to an earlier
declaration. -/
theorem mentions_of_leads (hnd : (config.services.map (·.id)).Nodup)
    (h : build config classes = .ok (services, found))
    (hd : config.services = earlier ++ d :: later) {target : String}
    (hz : ∃ e ∈ later, e.Mentions z) (hleads : Relation.TransGen services.Renames z target) :
    target ≠ d.id ∧ ∃ e ∈ later, e.Mentions target := by
  induction hleads with
  | single hstep => exact mentions_of_renames hnd h hd hz hstep
  | tail _ hstep ih => exact mentions_of_renames hnd h hd ih.2 hstep

/-- Nothing is reported of an identifier that is another name. -/
theorem error_not_mem_of_renames {target : String} {f : Finding}
    (h : build config classes = .ok (services, found)) (hz : Registered config classes z)
    (hrenames : services.Renames z target) : Diagnostic.error z f ∉ found := by
  intro hmem
  have hnone : errorsAbout z found = 0 := by
    cases completed_build h hz with
    | definite _ hnone => exact hnone
    | dropped hno _ => cases hrenames.symm.trans hno
    | ambiguous hambiguous _ _ => cases hrenames.symm.trans hambiguous
  exact List.countP_eq_zero.1 hnone _ hmem (by simp [Diagnostic.error, Diagnostic.isError])

/-- A declaration whose identifier is an alias of it or of a later one is another name in the end.
-/
theorem renames_id_build (hnd : (config.services.map (·.id)).Nodup)
    (h : build config classes = .ok (services, found))
    (hd : config.services = earlier ++ d :: later) (hlost : ∃ e ∈ d :: later, d.id ∈ e.aliases) :
    ∃ target, services.Renames d.id target := by
  by_cases hlater : ∃ e ∈ later, e.Mentions d.id
  · obtain ⟨before, e, after, rfl, hed, hafter⟩ := exists_last_mention hlater
    have hmem : e ∈ before ++ e :: after := List.mem_append_right _ (.head _)
    have halias : d.id ∈ e.aliases := hed.resolve_left (ne_id_of_nodup hnd hd e hmem).symm
    have hsplit : config.services = (earlier ++ d :: before) ++ e :: after := by
      rw [hd, List.append_assoc, List.cons_append]
    exact ⟨e.id, renames_build h hsplit halias hafter⟩
  · obtain ⟨e, he, halias⟩ := hlost
    rcases List.mem_cons.1 he with rfl | he
    · exact ⟨e.id, renames_build h hd halias fun e' he' hz => hlater ⟨e', he', hz⟩⟩
    · exact absurd ⟨e, he, .inr halias⟩ hlater

/-- A declaration of a checked configuration is kept exactly if its identifier is no alias of it or
of a later one, and one of its aliases leads to it exactly if no later declaration mentions that
alias. -/
theorem kept_build_iff (hcheck : config.check = .ok ())
    (h : build config classes = .ok (services, found))
    (hd : config.services = earlier ++ d :: later) :
    (Kept services found d ↔ ∀ e ∈ d :: later, d.id ∉ e.aliases) ∧
      ∀ a ∈ d.aliases, Relation.TransGen services.Renames a d.id ↔
        ∀ e ∈ later, ¬ e.Mentions a := by
  have hnd := Config.nodup_ids_of_check hcheck
  have hregistered : Registered config classes d.id :=
    .declared (hd ▸ List.mem_append_right _ (.head _))
  refine ⟨⟨fun hkept => ?_, fun hfree => ?_⟩, fun a ha => ⟨fun hleads => ?_, fun hlater => ?_⟩⟩
  · by_contra hlost
    push Not at hlost
    obtain ⟨target, htarget⟩ := renames_id_build hnd h hd hlost
    rcases hkept with ⟨s, hservice, -⟩ | ⟨param, hmem⟩
    · cases htarget.symm.trans hservice
    · exact error_not_mem_of_renames h hregistered htarget hmem
  · obtain ⟨s, hs, hcompleted⟩ := completedAs_build h hd
    have hlater : ∀ e ∈ later, ¬ e.Mentions d.id := by
      rintro e he (hid | halias)
      · exact ne_id_of_nodup hnd hd e he hid.symm
      · exact hfree e (.tail _ he) halias
    have hc := hcompleted d.id (.inl rfl) hlater
    rw [ServiceDeclaration.entry, if_neg (hfree d (.head _))] at hc
    rcases hc with ⟨params, hservice⟩ | ⟨-, hreported⟩
    · exact .inl ⟨_, hservice, ⟨hs.origin, hs.className, hs.factory⟩⟩
    · exact .inr hreported
  · exact fun e he hea => (mentions_of_leads hnd h hd ⟨e, he, hea⟩ hleads).1 rfl
  · exact .single (renames_build h hd ha hlater)

/-- Two ways to send mail that are declared by hand, the second also for what is sent in bulk. -/
def declaredMailers : Config where
  services := [{ id := "Smtp", aliases := ["Mailer"] }, { id := "Ses", aliases := ["Bulk"] }]

/-- Two mailers are declared, and the later one takes the identifier of the earlier one as an alias.
-/
theorem kept_build_iff_mailers : ∃ services found, declaredMailers.check = .ok () ∧
    build declaredMailers mailers = .ok (services, found) ∧
    declaredMailers.services = [] ++ { id := "Smtp", aliases := ["Mailer"] } ::
      [{ id := "Ses", aliases := ["Bulk"] }] ∧
    Kept services found { id := "Smtp", aliases := ["Mailer"] } ∧
    Relation.TransGen services.Renames "Mailer" "Smtp" := by
  have hcheck : declaredMailers.check = .ok () := by rfl
  obtain ⟨⟨services, found⟩, hbuild⟩ : ∃ x, (build declaredMailers mailers).toOption = some x :=
    Option.isSome_iff_exists.1 (by decide +kernel)
  have h := Result.toOption_eq_some.1 hbuild
  have hservices : declaredMailers.services = [] ++ { id := "Smtp", aliases := ["Mailer"] } ::
      [{ id := "Ses", aliases := ["Bulk"] }] := rfl
  obtain ⟨hkept, hleads⟩ := kept_build_iff hcheck h hservices
  refine ⟨services, found, hcheck, h, hservices, hkept.2 ?_, (hleads "Mailer" (.head _)).2 ?_⟩
  · simp
  · simp [ServiceDeclaration.Mentions]

/-- A way to send mail that lists its own identifier among its aliases. -/
def selfNamedMailer : Config where
  services := [{ id := "Smtp", aliases := ["Smtp"] }]

/-- A checked configuration can lose a declaration: its identifier is another name of itself, and
nothing is reported of its parameters. -/
theorem exists_not_kept_selfNamed : selfNamedMailer.check = .ok () ∧
    ∃ services found, build selfNamedMailer mailers = .ok (services, found) ∧
      services.Renames "Smtp" "Smtp" ∧
      ¬ Kept services found { id := "Smtp", aliases := ["Smtp"] } := by
  refine ⟨by rfl, ?_⟩
  obtain ⟨⟨services, found⟩, hbuild⟩ : ∃ x, (build selfNamedMailer mailers).toOption = some x :=
    Option.isSome_iff_exists.1 (by decide +kernel)
  have h := Result.toOption_eq_some.1 hbuild
  have hservices : selfNamedMailer.services = [] ++ [{ id := "Smtp", aliases := ["Smtp"] }] := rfl
  have hrenames : services.Renames "Smtp" "Smtp" := renames_build h hservices (.head _) nofun
  refine ⟨services, found, h, hrenames, ?_⟩
  rintro (⟨s, hservice, -⟩ | ⟨param, hmem⟩)
  · cases hrenames.symm.trans hservice
  · exact error_not_mem_of_renames h (.declared (.head _)) hrenames hmem

end

end Registrations

end Wiring
