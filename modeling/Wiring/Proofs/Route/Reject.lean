import Wiring.Proofs.Route.Definition
import Wiring.Route.Table

/-!
# Routes that are rejected

A definition of a route is rejected for its template if it captures a name twice or has a
requirement for a name that it does not capture. One that captures each name once, and has
requirements for captures only, can be rejected for a pattern alone
(`RouteDefinition.check_of_fitting`). Compiling fails with a fault of a template only if one of the
definitions has that fault (`RouteTable.exists_check_eq_error`).
-/

namespace Wiring

open Result (bind_eq_ok bind_eq_error)

/-- What is wrong with the template of a route or with the names of its requirements. -/
inductive Fault.OfTemplate : Fault → Prop
  | capturedTwice {param : String} : OfTemplate (.capturedTwice param)
  | requirementNotInPath {param : String} : OfTemplate (.requirementNotInPath param)

namespace RouteDefinition

/-- A definition that the annotations of a class give, or a declaration. -/
inductive Given (config : Config) (classes : List ClassDescriptor) (r : RouteDefinition) : Prop
  | found {c : ClassDescriptor} {m : Method} {a : Annotation} : c ∈ classes → m ∈ c.methods →
      a ∈ m.annotations → ofAnnotation c m a = .ok (some r) → Given config classes r
  | declared {d : RouteDeclaration} : d ∈ config.routes → ofDeclaration d = .ok r →
      Given config classes r

section
variable {config : Config} {classes : List ClassDescriptor} {services : ContainerPlan}
  {r : RouteDefinition} {e : CompileError} {subject : String} {fault : Fault}

/-! ## Names and requirements -/

/-- Placing a requirement adds none but that one. -/
theorem mem_placeRequirement {capture pattern : String} {done : List (String × String)}
    {x : String × String} (h : x ∈ placeRequirement capture pattern done) :
    x = (capture, pattern) ∨ x ∈ done := by
  induction done with
  | nil => exact .inl (List.mem_singleton.1 h)
  | cons first rest ih =>
    obtain ⟨c, p⟩ := first
    rw [placeRequirement] at h
    split at h
    · exact (List.mem_cons.1 h).imp_right (.tail _)
    · split at h
      · exact List.mem_cons.1 h
      · rcases List.mem_cons.1 h with rfl | h
        · exact .inr (.head _)
        · exact (ih h).imp_right (.tail _)

/-- Sorting requirements adds none. -/
theorem sortRequirements_subset (requirements : List (String × String)) :
    sortRequirements requirements ⊆ requirements := by
  have hfold (done : List (String × String)) :
      requirements.foldl (fun done x => placeRequirement x.1 x.2 done) done ⊆
        done ++ requirements := by
    induction requirements generalizing done with
    | nil => exact List.subset_append_left done []
    | cons first rest ih =>
      intro x hx
      rcases List.mem_append.1 (ih _ hx) with hx | hx
      · rcases mem_placeRequirement hx with rfl | hx
        · exact List.mem_append_right _ (.head _)
        · exact List.mem_append_left _ hx
      · exact List.mem_append_right _ (.tail _ hx)
  exact hfold []

/-- Checks one requirement of a definition. -/
def checkRequirement (r : RouteDefinition) (x : String × String) : Except CompileError Unit :=
  if x.1 ∉ Route.captures r.path then .error (.declaration r.subject (.requirementNotInPath x.1))
  else if (Pattern.ofText? (Route.anchored x.2)).isNone then .error (.invalidRequirement r.path x.1)
  else .ok ()

/-- Where the captures have different names the requirements are checked one by one. -/
theorem check_eq_forM (hnames : (Route.captures r.path).Nodup) :
    check r = r.requirements.forM (checkRequirement r) := by
  have hnone : firstRepeated? [] (Route.captures r.path) = none :=
    firstRepeated?_eq_none_iff.2 ⟨hnames, fun _ _ => List.not_mem_nil⟩
  simp only [check, hnone]
  refine congrArg r.requirements.forM (funext fun x => ?_)
  rw [checkRequirement]
  split
  · rfl
  · split <;> rfl

/-- A definition that captures each name once and has requirements for its captures is rejected for
nothing but a requirement that is no pattern. -/
theorem check_of_fitting (hnames : (Route.captures r.path).Nodup)
    (hrequirements : ∀ x ∈ r.requirements, x.1 ∈ Route.captures r.path) :
    check r = .ok () ∨ ∃ capture pattern, (capture, pattern) ∈ r.requirements ∧
      Pattern.ofText? (Route.anchored pattern) = none ∧
        check r = .error (.invalidRequirement r.path capture) := by
  rw [check_eq_forM hnames]
  cases h : r.requirements.forM (checkRequirement r) with
  | ok _ => exact .inl rfl
  | error e =>
    obtain ⟨⟨capture, pattern⟩, hmem, hone⟩ := Result.of_forM_eq_error h
    rw [checkRequirement, if_neg (not_not_intro (hrequirements _ hmem))] at hone
    split at hone
    · next hpattern =>
      cases hone
      exact .inr ⟨capture, pattern, hmem, Option.isNone_iff_eq_none.1 hpattern, rfl⟩
    · cases hone

/-! ## What rejects a project -/

/-- A path is refused because of how it starts. -/
theorem checkedPath_eq_error {start path owner : String}
    (h : checkedPath start path owner = .error e) :
    e = .declaration owner (.routePathStart path) := by
  rw [checkedPath] at h
  split at h
  · cases h
  · cases h
    rfl

/-- A class is refused because of how one of its paths starts. -/
theorem ofClass_eq_error {c : ClassDescriptor} (h : ofClass c = .error e) :
    ∃ path, e = .declaration c.name (.routePathStart path) := by
  rcases bind_eq_error.1 h with h | ⟨_, -, h⟩
  · obtain ⟨⟨m, a⟩, -, h⟩ := Result.of_mapM_eq_error h
    cases a with
    | route verb path requirements name? =>
      rcases bind_eq_error.1 h with h | ⟨_, -, h⟩
      · exact ⟨path, checkedPath_eq_error h⟩
      · cases h
    | _ => cases h
  · cases h

/-- A declaration is refused because of its target, or of how its path starts. -/
theorem ofDeclaration_eq_error {d : RouteDeclaration} (h : ofDeclaration d = .error e) :
    e = .declaration d.target .targetForm ∨
      e = .declaration d.target (.routePathStart d.path) := by
  rw [ofDeclaration] at h
  split at h
  · cases h
    exact .inl rfl
  · rcases bind_eq_error.1 h with h | ⟨_, -, h⟩
    · exact .inr (checkedPath_eq_error h)
    · cases h

/-- What the annotations of a class give is given. -/
theorem given_of_ofClass {c : ClassDescriptor} {found : List RouteDefinition} (hc : c ∈ classes)
    (h : ofClass c = .ok found) (hr : r ∈ found) : Given config classes r := by
  obtain ⟨results, hresults, h⟩ := bind_eq_ok.1 h
  cases h
  obtain ⟨r?, hr?, rfl⟩ := List.mem_filterMap.1 hr
  obtain ⟨⟨m, a⟩, hmark, hgiven⟩ := Result.of_mapM_eq_ok hresults _ hr?
  obtain ⟨m', hm, hpair⟩ := List.mem_flatMap.1 hmark
  obtain ⟨a', ha, hpair⟩ := List.mem_map.1 hpair
  cases hpair
  exact .found hc hm ha hgiven

/-- Reading and checking all definitions fails with a fault of a template only if one of them has
it. -/
theorem exists_check_of_all_eq_error (hfault : fault.OfTemplate)
    (h : all config classes = .error (.declaration subject fault)) :
    ∃ r, Given config classes r ∧ check r = .error (.declaration subject fault) := by
  rcases bind_eq_error.1 h with h | ⟨found, hfound, h⟩
  · obtain ⟨c, -, h⟩ := Result.of_mapM_eq_error h
    obtain ⟨path, h⟩ := ofClass_eq_error h
    cases h
    cases hfault
  rcases bind_eq_error.1 h with h | ⟨declared, hdeclared, h⟩
  · obtain ⟨d, -, h⟩ := Result.of_mapM_eq_error h
    rcases ofDeclaration_eq_error h with h | h <;> cases h <;> cases hfault
  rcases bind_eq_error.1 h with h | ⟨_, -, h⟩
  · obtain ⟨r, hr, hcheck⟩ := Result.of_forM_eq_error h
    refine ⟨r, ?_, hcheck⟩
    rcases List.mem_append.1 hr with hr | hr
    · obtain ⟨rs, hrs, hr⟩ := List.mem_flatten.1 hr
      obtain ⟨c, hc, hclass⟩ := Result.of_mapM_eq_ok hfound rs hrs
      exact given_of_ofClass hc hclass hr
    · obtain ⟨d, hd, hdeclaration⟩ := Result.of_mapM_eq_ok hdeclared r hr
      exact .declared hd hdeclaration
  · cases h

end

end RouteDefinition

namespace RouteTable

section
variable {config : Config} {classes : List ClassDescriptor} {services : ContainerPlan}
  {subject : String} {fault : Fault}

/-- Nothing but a conflict keeps a definition out that was checked. -/
theorem add_eq_error {done : RouterPlan × List Diagnostic} {r : RouteDefinition} {e : CompileError}
    (h : add config classes services done r = .error e) :
    ∃ previous, e = .routeConflict r.verb r.path previous r.target := by
  rw [add] at h
  split at h
  · cases h
  · split at h
    · cases h
    · next previous _ =>
      split at h
      · cases h
        exact ⟨previous.target, rfl⟩
      · cases h

/-- Compiling fails with a fault of a template only if one of the definitions has it. -/
theorem exists_check_eq_error (hfault : fault.OfTemplate)
    (h : compile config classes services = .error (.declaration subject fault)) :
    ∃ r, RouteDefinition.Given config classes r ∧
      RouteDefinition.check r = .error (.declaration subject fault) := by
  rcases bind_eq_error.1 h with h | ⟨definitions, -, h⟩
  · exact RouteDefinition.exists_check_of_all_eq_error hfault h
  · obtain ⟨r, -, done, h⟩ := Result.of_foldlM_eq_error h
    obtain ⟨previous, h⟩ := add_eq_error h
    cases h

end

end RouteTable

end Wiring
