import Wiring.Proofs.Route.Replace
import Wiring.Proofs.Route.Terminals

/-!
# Where definitions end up

Compiling loses no definition and counts none twice: each one has a place of its own in the plan,
has its place taken by a later one, which a warning reports, or is reported as an error
(`RouteTable.compile_conserves`). What stands at a place is the call of the last definition with its
verb and keys that can be bound (`RouteTable.LastBound`).
-/

namespace Wiring

/-! ## The number of definitions -/

namespace RouteDefinition

/-- Whether an annotation is one of a route. -/
def isMark : Annotation → Bool
  | .route .. => true
  | _ => false

/-- The route annotations of a class. -/
def marks (c : ClassDescriptor) : List Annotation :=
  c.methods.flatMap fun m => m.annotations.filter isMark

section
variable {config : Config} {classes : List ClassDescriptor} {definitions : List RouteDefinition}

/-- An annotation gives a definition if it is one of a route. -/
theorem isSome_ofAnnotation {c : ClassDescriptor} {m : Method} {a : Annotation}
    {r? : Option RouteDefinition} (h : ofAnnotation c m a = .ok r?) : r?.isSome = isMark a := by
  cases a with
  | route verb path requirements name? =>
    obtain ⟨path', -, h⟩ := Result.bind_eq_ok.1 h
    cases h
    rfl
  | _ => cases h; rfl

/-- A class gives a definition for each of its route annotations. -/
theorem length_ofClass {c : ClassDescriptor} (h : ofClass c = .ok definitions) :
    definitions.length = (marks c).length := by
  obtain ⟨results, hresults, h⟩ := Result.bind_eq_ok.1 h
  cases h
  have hlength : ∀ {l : List (Method × Annotation)} {rs : List (Option RouteDefinition)},
      List.Forall₂ (fun ma r? => ofAnnotation c ma.1 ma.2 = .ok r?) l rs →
        (rs.filterMap id).length = ((l.map (·.2)).filter isMark).length := by
    intro l rs hall
    induction hall with
    | nil => rfl
    | @cons ma r? _ _ hone _ ih =>
      have hsome := isSome_ofAnnotation hone
      rw [List.map_cons, List.filter_cons, ← hsome]
      cases r? with
      | none => exact ih
      | some r => exact congrArg (· + 1) ih
  have hmarks : ((c.methods.flatMap fun m => m.annotations.map (m, ·)).map (·.2)).filter isMark =
      marks c := by
    rw [List.map_flatMap, List.filter_flatMap, marks]
    refine List.flatMap_congr fun m _ => ?_
    rw [List.map_map]
    exact congrArg _ (List.map_id _)
  rw [hlength (Result.forall₂_of_mapM_eq_ok hresults), hmarks]

/-- There is a definition for each route annotation and each declared route. -/
theorem length_all (h : all config classes = .ok definitions) :
    definitions.length = (classes.flatMap marks).length + config.routes.length := by
  obtain ⟨found, declared, hfound, hdeclared, rfl, -⟩ := of_all h
  have hlength : ∀ {cs : List ClassDescriptor} {found : List (List RouteDefinition)},
      List.Forall₂ (fun c rs => ofClass c = .ok rs) cs found →
        found.flatten.length = (cs.flatMap marks).length := by
    intro cs found hall
    induction hall with
    | nil => rfl
    | cons hone _ ih =>
      rw [List.flatten_cons, List.flatMap_cons, List.length_append, List.length_append, ih,
        length_ofClass hone]
  rw [List.length_append, hlength (Result.forall₂_of_mapM_eq_ok hfound),
    (Result.forall₂_of_mapM_eq_ok hdeclared).length_eq]

end

end RouteDefinition

namespace RouteTable

/-! ## The last definition of a place -/

/-- The call of the last definition with a verb and keys that can be bound: whatever comes after it
has another place, or cannot be bound. -/
def LastBound (config : Config) (classes : List ClassDescriptor) (services : ContainerPlan)
    (definitions : List RouteDefinition) (verb : Verb) (keys : List RouteKey) (call : RouteCall) :
    Prop :=
  ∃ before r later, definitions = before ++ r :: later ∧ r.verb = verb ∧ r.keys = keys ∧
    bind config classes services r = .ok call ∧
      ∀ r' ∈ later, r'.verb = verb → r'.keys = keys →
        ∃ finding, bind config classes services r' = .error finding

/-- What is said about definitions one after another, behind some that were read before. -/
def verdicts (config : Config) (classes : List ClassDescriptor) (services : ContainerPlan)
    (done : List RouteDefinition) : List RouteDefinition → List Diagnostic
  | [] => []
  | r :: rest =>
    (verdict? config classes services done r).toList ++
      verdicts config classes services (done ++ [r]) rest

/-- Nothing is lost between definitions and what was made of them. -/
structure Conserved (config : Config) (classes : List ClassDescriptor) (services : ContainerPlan)
    (definitions : List RouteDefinition) (plan : RouterPlan) (diagnostics : List Diagnostic) :
    Prop where
  /-- Every route annotation and every declared route is a definition. -/
  marks : definitions.length =
    (classes.flatMap RouteDefinition.marks).length + config.routes.length
  /-- Every definition is in the plan, had its place taken, or is an error. -/
  balance : definitions.length =
    plan.size + diagnostics.countP isReplacement + diagnostics.countP (·.isError)
  said : diagnostics = verdicts config classes services [] definitions
  /-- A warning names the target that stood at the place of a definition before. -/
  warnings : ∀ d ∈ diagnostics, isReplacement d = true → ∃ before r later previous,
    definitions = before ++ r :: later ∧
      LastBound config classes services before r.verb r.keys previous ∧
        d = .warning r.subject (.routeOverwritten previous.target)
  errors : ∀ d ∈ diagnostics, d.isError = true →
    (∃ target, d.finding = .missingTarget target) ∨
      ∃ param, d.finding = .unboundRouteParameter param
  /-- At each place stands the call of the last definition that was bound for it. -/
  terminals : ∀ verb keys call, ((verb, keys), call) ∈ plan.terminals ↔
    LastBound config classes services definitions verb keys call
  nodup : (plan.terminals.map (·.1)).Nodup

section
variable {config : Config} {classes : List ClassDescriptor} {services : ContainerPlan}
  {definitions done : List RouteDefinition} {r : RouteDefinition} {plan plan' : RouterPlan}
  {diagnostics : List Diagnostic} {verb : Verb} {keys : List RouteKey} {call : RouteCall}

/-- The route of a definition has its verb, its keys and the call it is bound to. -/
theorem route?_eq_some_iff : route? config classes services verb r = some (keys, call) ↔
    r.verb = verb ∧ r.keys = keys ∧ bind config classes services r = .ok call := by
  rw [route?, Option.ite_none_right_eq_some]
  refine and_congr_right fun _ => ?_
  cases bind config classes services r <;> simp [Except.toOption]

/-- The call found for some keys is that of the last definition with them. -/
theorem call?_routes_eq_some_iff :
    Routes.call? (routes config classes services definitions verb) keys = some call ↔
      LastBound config classes services definitions verb keys call := by
  rw [Routes.call?, List.lookup_eq_some_iff]
  constructor
  · rintro ⟨later, before, heq, hlater⟩
    rw [List.reverse_eq_iff, List.reverse_append, List.reverse_cons, List.append_assoc,
      List.singleton_append, routes, List.filterMap_eq_append_iff] at heq
    obtain ⟨ds, ds', rfl, -, heq⟩ := heq
    obtain ⟨skipped, r, rest, rfl, hskipped, hr, hrest⟩ := List.filterMap_eq_cons_iff.1 heq
    obtain ⟨hverb, hkeys, hbind⟩ := route?_eq_some_iff.1 hr
    refine ⟨ds ++ skipped, r, rest, by simp, hverb, hkeys, hbind, fun r' hr' hverb' hkeys' => ?_⟩
    cases hbind' : bind config classes services r' with
    | error finding => exact ⟨finding, rfl⟩
    | ok call' =>
      have hmem : (keys, call') ∈ later.reverse := by
        rw [← hrest]
        exact List.mem_filterMap.2 ⟨r', hr', route?_eq_some_iff.2 ⟨hverb', hkeys', hbind'⟩⟩
      simpa using hlater _ (List.mem_reverse.1 hmem)
  · rintro ⟨before, r, later, rfl, hverb, hkeys, hbind, hlater⟩
    refine ⟨(routes config classes services later verb).reverse,
      (routes config classes services before verb).reverse, ?_, fun route hroute => ?_⟩
    · rw [routes, List.filterMap_append, List.filterMap_cons,
        route?_eq_some_iff.2 ⟨hverb, hkeys, hbind⟩]
      simp [routes]
    · obtain ⟨r', hr', hroute'⟩ := List.mem_filterMap.1 (List.mem_reverse.1 hroute)
      obtain ⟨hverb', hkeys', hbind'⟩ := route?_eq_some_iff.1 hroute'
      rw [bne_iff_ne]
      intro heq
      obtain ⟨finding, hfinding⟩ := hlater r' hr' hverb' (hkeys'.trans heq.symm)
      rw [hfinding] at hbind'
      cases hbind'

/-- What is said about one more definition comes last. -/
theorem verdicts_concat (done rest : List RouteDefinition) (r : RouteDefinition) :
    verdicts config classes services done (rest ++ [r]) =
      verdicts config classes services done rest ++
        (verdict? config classes services (done ++ rest) r).toList := by
  induction rest generalizing done with
  | nil => simp [verdicts]
  | cons first rest ih => simp [verdicts, ih]

/-- What is said is either whose place was taken or an error. -/
theorem verdict?_cases {d : Diagnostic} (h : verdict? config classes services done r = some d) :
    (isReplacement d = true ∧ d.isError = false ∧ ∃ previous,
      LastBound config classes services done r.verb r.keys previous ∧
        d = .warning r.subject (.routeOverwritten previous.target)) ∨
    (isReplacement d = false ∧ d.isError = true ∧
      ((∃ target, d.finding = .missingTarget target) ∨
        ∃ param, d.finding = .unboundRouteParameter param)) := by
  rw [verdict?] at h
  split at h
  · next finding hbind =>
    cases h
    refine .inr ?_
    rcases of_bind_eq_error hbind with ⟨target, rfl⟩ | ⟨param, rfl⟩
    · exact ⟨rfl, rfl, .inl ⟨target, rfl⟩⟩
    · exact ⟨rfl, rfl, .inr ⟨param, rfl⟩⟩
  · obtain ⟨previous, hprevious, rfl⟩ := Option.map_eq_some_iff.1 h
    exact .inl ⟨rfl, rfl, previous, call?_routes_eq_some_iff.1 hprevious, rfl⟩

/-- What is said is said about one of the definitions, behind those before it. -/
theorem of_mem_verdicts {d : Diagnostic} {rest : List RouteDefinition}
    (h : d ∈ verdicts config classes services done rest) : ∃ before r later,
      rest = before ++ r :: later ∧
        verdict? config classes services (done ++ before) r = some d := by
  induction rest generalizing done with
  | nil => cases h
  | cons r rest ih =>
    rw [verdicts] at h
    rcases List.mem_append.1 h with h | h
    · exact ⟨[], r, rest, rfl, by rw [List.append_nil]; exact Option.mem_toList.1 h⟩
    · obtain ⟨before, r', later, rfl, hsaid⟩ := ih h
      exact ⟨r :: before, r', later, rfl, by rwa [List.append_assoc] at hsaid⟩

/-- A call stands at its place if its definition is the last one there that can be bound. -/
theorem Stands.mem_terminals (h : Stands config classes services done plan) :
    ((verb, keys), call) ∈ plan.terminals ↔
      LastBound config classes services done verb keys call :=
  (h.entered.mem_terminals h.placed (pathed_routes done)).trans call?_routes_eq_some_iff

/-- A place is taken if a route has its keys. -/
theorem Stands.mem_places (h : Stands config classes services done plan) :
    (verb, keys) ∈ plan.terminals.map (·.1) ↔
      (Routes.call? (routes config classes services done verb) keys).isSome = true := by
  rw [List.mem_map, Option.isSome_iff_exists]
  constructor
  · rintro ⟨⟨_, call⟩, hmem, rfl⟩
    exact ⟨call, (h.entered.mem_terminals h.placed (pathed_routes done)).1 hmem⟩
  · rintro ⟨call, hcall⟩
    exact ⟨_, (h.entered.mem_terminals h.placed (pathed_routes done)).2 hcall, rfl⟩

/-- After a definition that can be bound its place is one of the plan, beside those before. -/
theorem mem_places_after (h : Stands config classes services done plan)
    (h' : Stands config classes services (done ++ [r]) plan')
    (hbind : bind config classes services r = .ok call) (place : Verb × List RouteKey) :
    place ∈ plan'.terminals.map (·.1) ↔
      place = (r.verb, r.keys) ∨ place ∈ plan.terminals.map (·.1) := by
  obtain ⟨verb, keys⟩ := place
  rw [h.mem_places, h'.mem_places, routes_concat_ok hbind, withRoute, Prod.mk.injEq]
  by_cases hverb : r.verb = verb
  · rw [if_pos hverb, Routes.call?_concat]
    by_cases hkeys : keys = r.keys
    · simp [hverb, hkeys]
    · simp [hkeys]
  · simp [hverb, Ne.symm hverb]

/-- A definition adds a route to the plan or something to the diagnostics, but not both. -/
theorem Stands.size_after (h : Stands config classes services done plan)
    (h' : Stands config classes services (done ++ [r])
      (RouteTable.after config classes services r plan)) :
    (RouteTable.after config classes services r plan).size +
      (verdict? config classes services done r).toList.length = plan.size + 1 := by
  have hnodup := h.entered.nodup_terminals h.placed
  have hnodup' := h'.entered.nodup_terminals h'.placed
  rw [RouterPlan.size_eq, RouterPlan.size_eq]
  cases hbind : bind config classes services r with
  | error finding => simp [RouteTable.after, verdict?, hbind]
  | ok call =>
    have hmem := mem_places_after h h' hbind
    cases hdisplaced : displaced? config classes services done r with
    | none =>
      have hnew : (r.verb, r.keys) ∉ plan.terminals.map (·.1) := by
        rw [h.mem_places, ← displaced?, hdisplaced]
        exact Bool.false_ne_true
      have hperm := (List.perm_ext_iff_of_nodup hnodup' (List.nodup_cons.2 ⟨hnew, hnodup⟩)).2
        fun place => (hmem place).trans List.mem_cons.symm
      have hlength := hperm.length_eq
      rw [List.length_map, List.length_cons, List.length_map] at hlength
      simp [hlength, verdict?, hbind, hdisplaced]
    | some previous =>
      have hold : (r.verb, r.keys) ∈ plan.terminals.map (·.1) := by
        rw [h.mem_places, ← displaced?, hdisplaced]
        rfl
      have hperm := (List.perm_ext_iff_of_nodup hnodup' hnodup).2
        fun place => (hmem place).trans (or_iff_right_of_imp fun heq => heq ▸ hold)
      have hlength := hperm.length_eq
      rw [List.length_map, List.length_map] at hlength
      simp [hlength, verdict?, hbind, hdisplaced]

/-- What compiling comes to: each definition leaves the plan and what is said of it behind. -/
theorem compile_stands (h : compile config classes services = .ok (plan, diagnostics)) :
    ∃ definitions, RouteDefinition.all config classes = .ok definitions ∧
      Stands config classes services definitions plan ∧
      diagnostics = verdicts config classes services [] definitions ∧
      definitions.length = plan.size + diagnostics.length := by
  obtain ⟨definitions, hall, hfold⟩ := Result.bind_eq_ok.1 h
  refine ⟨definitions, hall, Result.foldlM_induction
    (fun done b => Stands config classes services done b.1 ∧
      b.2 = verdicts config classes services [] done ∧ done.length = b.1.size + b.2.length)
    ⟨.empty, rfl, rfl⟩ ?_ hfold⟩
  rintro done ⟨plan, diagnostics⟩ ⟨plan', diagnostics'⟩ r hr ⟨hstands, rfl, hlength⟩ hadd
  have hafter := hstands.after hall hr
  have hsize := hstands.size_after hafter
  rw [hstands.add_eq (RouteDefinition.normalized_of_all hall hr)] at hadd
  split at hadd
  · cases hadd
  · cases hadd
    refine ⟨hafter, (verdicts_concat [] done r).symm, ?_⟩
    simp only [List.length_append, List.length_singleton] at hlength hsize ⊢
    omega

/-- Compiled routes are conserved. -/
theorem compile_conserves (h : compile config classes services = .ok (plan, diagnostics)) :
    ∃ definitions, RouteDefinition.all config classes = .ok definitions ∧
      Conserved config classes services definitions plan diagnostics := by
  obtain ⟨definitions, hall, hstands, hsaid, hlength⟩ := compile_stands h
  -- what is no replacement is an error
  have hcount : diagnostics.length =
      diagnostics.countP isReplacement + diagnostics.countP (·.isError) := by
    rw [List.length_eq_countP_add_countP isReplacement]
    congr 1
    refine List.countP_congr fun d hd => ?_
    obtain ⟨before, r, later, -, hverdict⟩ := of_mem_verdicts (hsaid ▸ hd)
    rcases verdict?_cases hverdict with ⟨hreplacement, herror, -⟩ | ⟨hreplacement, herror, -⟩ <;>
      simp [hreplacement, herror]
  exact ⟨definitions, hall, {
    marks := RouteDefinition.length_all hall
    balance := by omega
    said := hsaid
    warnings := fun d hd hreplacement => by
      obtain ⟨before, r, later, heq, hverdict⟩ := of_mem_verdicts (hsaid ▸ hd)
      rcases verdict?_cases hverdict with ⟨-, -, previous, hprevious, hd⟩ | ⟨hno, -⟩
      · exact ⟨before, r, later, previous, heq, hprevious, hd⟩
      · rw [hreplacement] at hno
        cases hno
    errors := fun d hd herror => by
      obtain ⟨before, r, later, -, hverdict⟩ := of_mem_verdicts (hsaid ▸ hd)
      rcases verdict?_cases hverdict with ⟨-, hno, -⟩ | ⟨-, -, hfinding⟩
      · rw [herror] at hno
        cases hno
      · exact hfinding
    terminals := fun _ _ _ => hstands.mem_terminals
    nodup := hstands.entered.nodup_terminals hstands.placed }⟩

end

/-- Notes with two methods for the list, two for a single note, and one that nothing can print. -/
def notes : ClassDescriptor where
  name := "app::Notes"
  kind := .concrete
  methods := [
    { name := "list", isStatic := true, annotations := [.route .get "/notes" [] none] },
    { name := "show", isStatic := true, annotations := [.route .get "/notes/{id}" [] none] },
    { name := "index", isStatic := true, annotations := [.route .get "/notes/" [] none] },
    { name := "view", isStatic := true, annotations := [.route .get "/notes/{id}" [] none] },
    { name := "print", isStatic := true, params := [{ name := "printer", type := .untyped }]
      annotations := [.route .get "/print" [] none] }]

/-- Of five definitions of notes two are replaced and one cannot be bound, and two stand. -/
theorem compile_conserves_notes : ∃ plan diagnostics,
    compile {} [notes] {} = .ok (plan, diagnostics) ∧
      (plan.size = 2 ∧ diagnostics.countP isReplacement = 2 ∧ diagnostics.countP (·.isError) = 1) ∧
      ∃ definitions, RouteDefinition.all {} [notes] = .ok definitions ∧
        Conserved {} [notes] {} definitions plan diagnostics := by
  have hsize : (compile {} [notes] {}).toOption.map (fun compiled => (compiled.1.size,
      compiled.2.countP isReplacement, compiled.2.countP (·.isError))) = some (2, 2, 1) := by
    decide +kernel
  cases h : compile {} [notes] {} with
  | error e =>
    rw [h] at hsize
    cases hsize
  | ok compiled =>
    rw [h] at hsize
    have hcounts := Option.some.inj hsize
    simp only [Prod.mk.injEq] at hcounts
    exact ⟨compiled.1, compiled.2, rfl, hcounts, compile_conserves h⟩

end RouteTable

end Wiring
