import Wiring.Proofs.Route.Conserve

/-!
# Strict and lenient compiling

Strict mode changes nothing but what happens when a route takes the place of another. Compiling goes
the same way up to the first such route, of which the lenient run gives a warning; there the strict
run ends with a conflict that names the same routes (`RouteTable.compile_strict`).
-/

namespace Wiring

/-- The configuration with strict mode on or off. -/
def Config.setStrict (config : Config) (strict : Bool) : Config :=
  { config with strictRoutes := strict }

namespace RouteTable

section
variable {config : Config} {classes : List ClassDescriptor} {services : ContainerPlan}
  {definitions done rest : List RouteDefinition} {r : RouteDefinition} {plan : RouterPlan}
  {diagnostics : List Diagnostic}

/-! ## Strict mode is seen by nothing else -/

/-- The definitions do not depend on whether the run is strict. -/
theorem all_setStrict (strict : Bool) :
    RouteDefinition.all (config.setStrict strict) classes = RouteDefinition.all config classes :=
      rfl

/-- What a plan holds does not depend on whether the run is strict. -/
theorem stands_setStrict (strict : Bool) :
    Stands (config.setStrict strict) classes services done plan ↔
      Stands config classes services done plan :=
  ⟨fun ⟨entered, placed⟩ => ⟨entered, placed⟩, fun ⟨entered, placed⟩ => ⟨entered, placed⟩⟩

/-! ## One definition -/

/-- In lenient mode adding a definition always goes on. -/
theorem Stands.add_lenient (h : Stands config classes services done plan)
    (hnorm : Route.Normalized r.path) (diagnostics : List Diagnostic) :
    add (config.setStrict false) classes services (plan, diagnostics) r =
      .ok (RouteTable.after config classes services r plan,
        diagnostics ++ (verdict? config classes services done r).toList) :=
  ((stands_setStrict false).2 h).add_eq hnorm

/-- In strict mode a conflict ends it. -/
theorem Stands.add_strict (h : Stands config classes services done plan)
    (hnorm : Route.Normalized r.path) :
    add (config.setStrict true) classes services (plan, diagnostics) r =
      match conflict? config classes services done r with
      | some e => .error e
      | none => .ok (RouteTable.after config classes services r plan,
          diagnostics ++ (verdict? config classes services done r).toList) :=
  ((stands_setStrict true).2 h).add_eq hnorm

/-- Where there is no conflict there is no warning. -/
theorem isReplacement_of_conflict?_eq_none (h : conflict? config classes services done r = none) :
    ∀ d ∈ (verdict? config classes services done r).toList, isReplacement d = false := by
  intro d hd
  rcases verdict?_cases (Option.mem_toList.1 hd) with ⟨hreplacement, -⟩ | ⟨hno, -⟩
  · have hd := Option.mem_toList.1 hd
    rw [conflict?] at h
    rw [verdict?] at hd
    split at h
    · next finding hbind =>
      rw [hbind] at hd
      cases hd
      rcases of_bind_eq_error hbind with ⟨_, rfl⟩ | ⟨_, rfl⟩ <;> rfl
    · next call hbind =>
      rw [hbind, Option.map_eq_none_iff.1 h] at hd
      cases hd
  · exact hno

/-! ## Runs -/

/-- What is said about definitions, and then about more of them. -/
theorem verdicts_append (done before later : List RouteDefinition) :
    verdicts config classes services done (before ++ later) =
      verdicts config classes services done before ++
        verdicts config classes services (done ++ before) later := by
  induction before generalizing done with
  | nil => simp [verdicts]
  | cons first before ih => simp [verdicts, ih]

/-- A lenient run goes through all definitions. -/
theorem Stands.run_lenient (h : Stands config classes services done plan)
    (hall : RouteDefinition.all config classes = .ok definitions) (hrest : rest ⊆ definitions)
    (diagnostics : List Diagnostic) :
    ∃ plan', Stands config classes services (done ++ rest) plan' ∧
      rest.foldlM (add (config.setStrict false) classes services) (plan, diagnostics) =
        .ok (plan', diagnostics ++ verdicts config classes services done rest) := by
  induction rest generalizing done plan diagnostics with
  | nil => exact ⟨plan, by rwa [List.append_nil], by simp [verdicts, pure, Except.pure]⟩
  | cons r rest ih =>
    obtain ⟨hr, hrest⟩ := List.cons_subset.1 hrest
    have hadd := h.add_lenient (RouteDefinition.normalized_of_all hall hr) diagnostics
    obtain ⟨plan', hplan', hrun⟩ := ih (h.after hall hr) hrest
      (diagnostics ++ (verdict? config classes services done r).toList)
    refine ⟨plan', by rwa [List.append_cons], ?_⟩
    rw [List.foldlM_cons, hadd, Result.ok_bind, hrun, verdicts, List.append_assoc]

/-- A strict run goes the same way, without a warning of a replacement, or ends at the first
definition that takes the place of another. -/
theorem Stands.run_strict (h : Stands config classes services done plan)
    (hall : RouteDefinition.all config classes = .ok definitions) (hrest : rest ⊆ definitions)
    (diagnostics : List Diagnostic) :
    (rest.foldlM (add (config.setStrict true) classes services) (plan, diagnostics) =
        rest.foldlM (add (config.setStrict false) classes services) (plan, diagnostics) ∧
      ∀ d ∈ verdicts config classes services done rest, isReplacement d = false) ∨
    ∃ before r later call previous, rest = before ++ r :: later ∧
      bind config classes services r = .ok call ∧
        displaced? config classes services (done ++ before) r = some previous ∧
          (∀ d ∈ verdicts config classes services done before, isReplacement d = false) ∧
            rest.foldlM (add (config.setStrict true) classes services) (plan, diagnostics) =
              .error (.routeConflict r.verb r.path previous.target r.target) := by
  induction rest generalizing done plan diagnostics with
  | nil => exact .inl ⟨rfl, nofun⟩
  | cons r rest ih =>
    obtain ⟨hr, hrest⟩ := List.cons_subset.1 hrest
    have hnorm := RouteDefinition.normalized_of_all hall hr
    rw [List.foldlM_cons, List.foldlM_cons, h.add_strict hnorm, h.add_lenient hnorm]
    cases hconflict : conflict? config classes services done r with
    | some e =>
      -- up to here both runs went the same way
      right
      rw [conflict?] at hconflict
      split at hconflict
      · cases hconflict
      · next call hbind =>
        obtain ⟨previous, hprevious, rfl⟩ := Option.map_eq_some_iff.1 hconflict
        exact ⟨[], r, rest, call, previous, rfl, hbind, by rwa [List.append_nil], nofun, rfl⟩
    | none =>
      have hquiet := isReplacement_of_conflict?_eq_none hconflict
      rcases ih (h.after hall hr) hrest
        (diagnostics ++ (verdict? config classes services done r).toList) with
        ⟨hrun, hquiet'⟩ | ⟨before, r', later, call, previous, rfl, hbind, hprevious, hquiet', hrun⟩
      · exact .inl ⟨hrun, List.forall_mem_append.2 ⟨hquiet, hquiet'⟩⟩
      · refine .inr ⟨r :: before, r', later, call, previous, rfl, hbind, ?_,
          List.forall_mem_append.2 ⟨hquiet, hquiet'⟩, hrun⟩
        rwa [List.append_cons]

/-- The lenient run that said `diagnostics` first takes the place of another route with definition
`r`: those before led to a plan without that, and the warning about `r` is the first of its kind. -/
def FirstReplacement (config : Config) (classes : List ClassDescriptor)
    (services : ContainerPlan) (definitions : List RouteDefinition) (diagnostics : List Diagnostic)
    (r : RouteDefinition) (previous : RouteCall) : Prop :=
  ∃ before later plan call said rest, definitions = before ++ r :: later ∧
    before.foldlM (add (config.setStrict false) classes services) ({}, []) = .ok (plan, said) ∧
      bind config classes services r = .ok call ∧ (enter plan r call).2 = some previous ∧
        diagnostics = said ++ .warning r.subject (.routeOverwritten previous.target) :: rest ∧
          ∀ d ∈ said, isReplacement d = false

end

/-- A strict run fails as the lenient one does, comes to the same if nothing was replaced, and else
ends with a conflict at the first replacement. -/
theorem compile_strict (config : Config) (classes : List ClassDescriptor)
    (services : ContainerPlan) :
    match compile (config.setStrict false) classes services with
    | .error e => compile (config.setStrict true) classes services = .error e
    | .ok (plan, diagnostics) =>
      if diagnostics.all (fun d => !isReplacement d) then
        compile (config.setStrict true) classes services = .ok (plan, diagnostics)
      else ∃ definitions r previous, RouteDefinition.all config classes = .ok definitions ∧
        FirstReplacement config classes services definitions diagnostics r previous ∧
          compile (config.setStrict true) classes services =
            .error (.routeConflict r.verb r.path previous.target r.target) := by
  rw [compile, compile, all_setStrict, all_setStrict]
  cases hall : RouteDefinition.all config classes with
  | error e => rfl
  | ok definitions =>
    rw [Result.ok_bind, Result.ok_bind]
    have hempty : Stands config classes services [] {} := .empty
    obtain ⟨plan, -, hrun⟩ := hempty.run_lenient hall (List.Subset.refl _) []
    rw [hrun, List.nil_append]
    dsimp only
    rcases hempty.run_strict hall (List.Subset.refl _) [] with
      ⟨hsame, hquiet⟩ | ⟨before, r, later, call, previous, heq, hbind, hprevious, hquiet, hfail⟩
    · rw [if_pos (List.all_eq_true.2 fun d hd => by rw [hquiet d hd]; rfl), hsame, hrun,
        List.nil_append]
    · have hverdict : verdict? config classes services before r =
          some (.warning r.subject (.routeOverwritten previous.target)) := by
        rw [verdict?, hbind]
        exact congrArg (Option.map _) hprevious
      -- the lenient run goes on, with the replacement among what it reports
      have hsplit : verdicts config classes services [] definitions =
          verdicts config classes services [] before ++
            .warning r.subject (.routeOverwritten previous.target) ::
              verdicts config classes services (before ++ [r]) later := by
        rw [heq, verdicts_append, verdicts, List.nil_append, hverdict]
        rfl
      have hbefore : before ⊆ definitions := heq ▸ List.subset_append_left _ _
      have hr : r ∈ definitions := by simp [heq]
      obtain ⟨plan', hplan', hrun'⟩ := hempty.run_lenient hall hbefore []
      rw [if_neg]
      · refine ⟨definitions, r, previous, rfl, ⟨before, later, plan', call, _, _, heq, hrun', hbind,
          ?_, hsplit, hquiet⟩, hfail⟩
        rw [hplan'.entered.enter_snd (RouteDefinition.normalized_of_all hall hr)]
        exact hprevious
      · rw [hsplit]
        simp [isReplacement, Diagnostic.warning]

/-- Two methods for one path. -/
def pagePair : ClassDescriptor where
  name := "app::Pages"
  kind := .concrete
  methods := [
    { name := "old", isStatic := true, annotations := [.route .get "/page" [] none] },
    { name := "new", isStatic := true, annotations := [.route .get "/page" [] none] }]

-- The lenient run lets the later method take the place of the earlier one, and says so; the strict
-- run ends there.
example :
    ((compile (({} : Config).setStrict false) [pagePair] {}).toOption.map fun compiled =>
      compiled.2.filter isReplacement) =
        some [.warning "GET /page" (.routeOverwritten "app::Pages::old")] ∧
    (match compile (({} : Config).setStrict true) [pagePair] {} with
      | .ok _ => none
      | .error e => some e) =
        some (.routeConflict .get "/page" "app::Pages::old" "app::Pages::new") := by
  decide +kernel

end RouteTable

end Wiring
