import Wiring.Proofs.Result
import Wiring.Proofs.Route.Path
import Wiring.Route.Definition

/-!
# What definitions of routes have in common

Once all definitions have been read and checked, their paths are normalized
(`RouteDefinition.normalized_of_all`) and their patterns are patterns
(`RouteDefinition.isSome_pattern_of_all`).
-/

namespace Wiring.RouteDefinition

open Result (bind_eq_ok of_forM_eq_ok of_mapM_eq_ok)

section
variable {config : Config} {classes : List ClassDescriptor} {definitions : List RouteDefinition}
  {r : RouteDefinition}

/-- A path that is accepted is normalized. -/
theorem normalized_checkedPath {start path owner path' : String}
    (h : checkedPath start path owner = .ok path') : Route.Normalized path' := by
  rw [checkedPath] at h
  split at h
  · cases h
    exact Route.normalized_normalize _
  · cases h

/-- The path of an annotation is normalized. -/
theorem normalized_ofAnnotation {c : ClassDescriptor} {m : Method} {a : Annotation}
    (h : ofAnnotation c m a = .ok (some r)) : Route.Normalized r.path := by
  cases a with
  | route verb path requirements name? =>
    obtain ⟨path', hpath, h⟩ := bind_eq_ok.1 h
    cases h
    exact normalized_checkedPath hpath
  | _ => cases h

/-- The paths of the annotations of a class are normalized. -/
theorem normalized_ofClass {c : ClassDescriptor} {found : List RouteDefinition}
    (h : ofClass c = .ok found) (hr : r ∈ found) : Route.Normalized r.path := by
  obtain ⟨results, hresults, h⟩ := bind_eq_ok.1 h
  cases h
  obtain ⟨r?, hr?, rfl⟩ := List.mem_filterMap.1 hr
  obtain ⟨_, -, hmark⟩ := of_mapM_eq_ok hresults _ hr?
  exact normalized_ofAnnotation hmark

/-- The path of a declaration is normalized. -/
theorem normalized_ofDeclaration {d : RouteDeclaration} (h : ofDeclaration d = .ok r) :
    Route.Normalized r.path := by
  rw [ofDeclaration] at h
  split at h
  · cases h
  · obtain ⟨path', hpath, h⟩ := bind_eq_ok.1 h
    cases h
    exact normalized_checkedPath hpath

/-- What the definitions are made of, all of which were checked. -/
theorem of_all (h : all config classes = .ok definitions) :
    ∃ found declared, classes.mapM ofClass = .ok found ∧
      config.routes.mapM ofDeclaration = .ok declared ∧ definitions = found.flatten ++ declared ∧
      ∀ r ∈ definitions, check r = .ok () := by
  obtain ⟨found, hfound, h⟩ := bind_eq_ok.1 h
  obtain ⟨declared, hdeclared, h⟩ := bind_eq_ok.1 h
  obtain ⟨_, hcheck, h⟩ := bind_eq_ok.1 h
  cases h
  exact ⟨found, declared, hfound, hdeclared, rfl, of_forM_eq_ok hcheck⟩

/-- The paths of definitions are normalized. -/
theorem normalized_of_all (h : all config classes = .ok definitions) (hr : r ∈ definitions) :
    Route.Normalized r.path := by
  obtain ⟨found, declared, hfound, hdeclared, rfl, -⟩ := of_all h
  rcases List.mem_append.1 hr with hr | hr
  · obtain ⟨rs, hrs, hr⟩ := List.mem_flatten.1 hr
    obtain ⟨c, -, hc⟩ := of_mapM_eq_ok hfound rs hrs
    exact normalized_ofClass hc hr
  · obtain ⟨d, -, hd⟩ := of_mapM_eq_ok hdeclared r hr
    exact normalized_ofDeclaration hd

/-- Nothing is repeated in a list of different names that were not seen before. -/
theorem firstRepeated?_eq_none_iff {seen names : List String} :
    firstRepeated? seen names = none ↔ names.Nodup ∧ ∀ name ∈ names, name ∉ seen := by
  induction names generalizing seen with
  | nil => exact iff_of_true rfl ⟨.nil, nofun⟩
  | cons name rest ih =>
    rw [firstRepeated?, List.nodup_cons, List.forall_mem_cons]
    split
    · next hseen => exact iff_of_false nofun fun h => h.2.1 hseen
    · next hseen =>
      rw [ih]
      constructor
      · rintro ⟨hnodup, hrest⟩
        exact ⟨⟨fun hmem => hrest name hmem (.head _), hnodup⟩, hseen,
          fun other hother hmem => hrest other hother (.tail _ hmem)⟩
      · rintro ⟨⟨hname, hnodup⟩, -, hrest⟩
        refine ⟨hnodup, fun other hother => ?_⟩
        rintro (_ | hmem)
        · exact hname hother
        · exact hrest other hother ‹_›

/-- The requirements of a definition that is accepted are patterns. -/
theorem isSome_pattern_of_check (h : check r = .ok ()) {capture pattern : String}
    (hmem : (capture, pattern) ∈ r.requirements) :
    (Pattern.ofText? (Route.anchored pattern)).isSome = true := by
  rw [check] at h
  split at h
  · cases h
  · have hone := of_forM_eq_ok h _ hmem
    dsimp only at hone
    split at hone
    · cases hone
    · split at hone
      · cases hone
      · next hsome => simpa [Option.isSome_iff_ne_none] using hsome

/-- The patterns of definitions are patterns. -/
theorem isSome_pattern_of_all (h : all config classes = .ok definitions) (hr : r ∈ definitions)
    {capture pattern : String} (hmem : (capture, pattern) ∈ r.requirements) :
    (Pattern.ofText? (Route.anchored pattern)).isSome = true := by
  obtain ⟨_, _, -, -, -, hcheck⟩ := of_all h
  exact isSome_pattern_of_check (hcheck r hr) hmem

end

end Wiring.RouteDefinition
