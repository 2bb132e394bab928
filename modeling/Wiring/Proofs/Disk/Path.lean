import Wiring.Disk.Tree
import Wiring.Proofs.Text.Fields

/-!
# Plain names at the end of paths

A relative path adds its trail to the components of a directory (`components_join_of_relative`), and
the trail of a plain name is that name. A path that ends in one leads to it, in whatever directory:
the last name of its goal is that name (`getLast?_goal_join`, `getLast?_goal_withFileName`). So two
such paths with different names lead to different places.
-/

namespace Wiring.Disk.Path

/-- A name that is neither empty nor a path of its own. -/
structure IsPlain (s : String) : Prop where
  ne_empty : s ≠ ""
  ne_current : s ≠ "."
  ne_parent : s ≠ ".."
  slash : '/' ∉ s.toList

instance (s : String) : Decidable (IsPlain s) :=
  decidable_of_iff (s ≠ "" ∧ s ≠ "." ∧ s ≠ ".." ∧ '/' ∉ s.toList)
    ⟨fun ⟨h₁, h₂, h₃, h₄⟩ => ⟨h₁, h₂, h₃, h₄⟩, fun ⟨h₁, h₂, h₃, h₄⟩ => ⟨h₁, h₂, h₃, h₄⟩⟩

/-- The place that a component leads to from another one. -/
def follow (place : Place) : Component → Place
  | .root => []
  | .current => place
  | .parent => place.dropLast
  | .name s => place ++ [s]

/-- The steps of a path, apart from a root or a dot at its start. -/
def trail (p : Path) : List Component :=
  steps (Text.fields '/' p)

/-- The place that a path leads to from the working directory, if the directories on the way are
there. -/
def goal (p : Path) (work : Place) : Place :=
  p.components.foldl follow work

section
variable {dir : Path} {s : String} {work : Place}

/-- Places with different last names are different. -/
theorem eq_of_getLast? {s s' : String} {g g' : Place} (hs : g.getLast? = some s)
    (hs' : g'.getLast? = some s') (h : g = g') : s = s' := by
  rw [h, hs'] at hs
  exact (Option.some.inj hs).symm

/-- A path that ends with a name leads to a place with this name. -/
theorem getLast?_goal {p : Path} (h : p.components.getLast? = some (.name s)) :
    (p.goal work).getLast? = some s := by
  obtain ⟨before, hbefore⟩ := List.getLast?_eq_some_iff.1 h
  rw [goal, hbefore, List.foldl_append]
  exact List.getLast?_concat

/-- A plain name is no absolute path. -/
theorem IsPlain.isAbsolute (h : IsPlain s) : isAbsolute s = false := by
  refine beq_eq_false_iff_ne.2 fun hhead => h.slash ?_
  exact List.mem_of_mem_head? hhead

/-- A relative path adds its fields to those of the path of a directory, which may have a slash at
its end. -/
theorem fields_join {p : Path} (hdir : dir ≠ "") (hp : p.isAbsolute = false) :
    ∃ first rest, Text.fields '/' (dir.join p) = first :: rest ++ Text.fields '/' p ∧
      (Text.fields '/' dir = first :: rest ∨ Text.fields '/' dir = first :: rest ++ [""]) := by
  have hcut (cs : List Char) : ∃ first rest,
      (Text.pieces '/' cs).map String.ofList = first :: rest ∧
        (Text.pieces '/' (cs ++ '/' :: p.toList)).map String.ofList =
          first :: rest ++ Text.fields '/' p := by
    obtain ⟨first, rest, hpieces⟩ := List.exists_cons_of_ne_nil (Text.pieces_ne_nil '/' cs)
    exact ⟨String.ofList first, rest.map String.ofList, by simp [hpieces],
      by simp [Text.pieces_append, Text.fields, hpieces]⟩
  rw [join, hp, if_neg (by simp)]
  split
  · next hends =>
    obtain ⟨cs, hcs⟩ := List.getLast?_eq_some_iff.1 (hends.resolve_left hdir)
    obtain ⟨first, rest, hdirFields, hfields⟩ := hcut cs
    refine ⟨first, rest, ?_, .inr ?_⟩
    · rw [Text.fields, String.toList_append, hcs, List.append_assoc]
      exact hfields
    · rw [Text.fields, hcs, Text.pieces_append, List.map_append, hdirFields]
      rfl
  · obtain ⟨first, rest, hdirFields, hfields⟩ := hcut dir.toList
    refine ⟨first, rest, ?_, .inl hdirFields⟩
    rw [Text.fields, String.toList_append, String.toList_append, List.append_assoc]
    exact hfields

/-- The steps of fields, one after the other. -/
theorem steps_append (fields fields' : List String) :
    steps (fields ++ fields') = steps fields ++ steps fields' :=
  List.filterMap_append

/-- An empty field at the end is no step. -/
theorem steps_append_empty (fields : List String) : steps (fields ++ [""]) = steps fields := by
  simp [steps]

/-- A plain name is one field. -/
theorem fields_of_plain (h : IsPlain s) : Text.fields '/' s = [s] := by
  simp [Text.fields, Text.pieces_of_not_mem h.slash]

/-- A plain name is one step. -/
theorem IsPlain.trail (h : IsPlain s) : trail s = [.name s] := by
  rw [Path.trail, fields_of_plain h]
  simp [steps, h.ne_empty, h.ne_current, h.ne_parent]

/-- A relative path behind a directory is absolute if the directory is. -/
theorem isAbsolute_join {p : Path} (hdir : dir ≠ "") (hp : p.isAbsolute = false) :
    (dir.join p).isAbsolute = dir.isAbsolute := by
  obtain ⟨c, cs, hcs⟩ := List.exists_cons_of_ne_nil fun hnil =>
    hdir (String.toList_eq_nil_iff.1 hnil)
  rw [join, hp, if_neg (by simp)]
  split <;> simp [isAbsolute, hcs]

/-- A relative path adds its trail to the components of a directory. -/
theorem components_join_of_relative {p : Path} (hdir : dir ≠ "") (hp : p.isAbsolute = false) :
    components (dir.join p) = components dir ++ p.trail := by
  obtain ⟨first, rest, hjoin, hfields⟩ := fields_join hdir hp
  have hdirSteps : (∃ more, Text.fields '/' dir = first :: more ∧ steps more = steps rest ∧
      steps (first :: more) = steps (first :: rest)) := by
    rcases hfields with hfields | hfields
    · exact ⟨rest, hfields, rfl, rfl⟩
    · exact ⟨rest ++ [""], hfields, steps_append_empty rest, steps_append_empty (first :: rest)⟩
  obtain ⟨more, hmore, hrest, hall⟩ := hdirSteps
  rw [components, components, hjoin, isAbsolute_join hdir hp, hmore, trail]
  simp only [List.cons_append, hrest, hall]
  split
  · rw [steps_append, List.cons_append]
  · split
    · rw [steps_append, List.cons_append]
    · rw [← List.cons_append, steps_append]

/-- A plain name is one more component. -/
theorem components_join (dir : Path) (h : IsPlain s) :
    components (dir.join s) = components dir ++ [.name s] := by
  by_cases hdir : dir = ""
  · have hjoin : join "" s = s := by simp [join, h.isAbsolute]
    have hnil : components "" = [] := by decide
    rw [hdir, hnil, hjoin, components, fields_of_plain h]
    simp only [h.isAbsolute, if_neg h.ne_current, Bool.false_eq_true, if_false]
    exact (congrArg steps (fields_of_plain h)).symm.trans h.trail
  · rw [components_join_of_relative hdir h.isAbsolute, h.trail]

/-- A plain name behind a directory is the last component. -/
theorem getLast?_components_join (dir : Path) (h : IsPlain s) :
    (components (dir.join s)).getLast? = some (.name s) := by
  rw [components_join dir h]
  exact List.getLast?_concat

/-- Plain names lead down from a directory. -/
theorem components_foldl_join (dir : Path) {names : List String} (h : ∀ s ∈ names, IsPlain s) :
    components (names.foldl join dir) = components dir ++ names.map .name := by
  induction names generalizing dir with
  | nil => simp
  | cons s names ih =>
    rw [List.foldl_cons, ih (dir.join s) fun t ht => h t (.tail _ ht),
      components_join dir (h s (.head _)), List.append_assoc]
    rfl

/-- Names lead down from a place. -/
theorem foldl_follow_names (g : Place) (names : List String) :
    (names.map Component.name).foldl follow g = g ++ names := by
  induction names generalizing g with
  | nil => simp
  | cons s names ih =>
    rw [List.map_cons, List.foldl_cons, ih]
    simp [follow]

/-- Plain names behind a directory lead down from its goal. -/
theorem goal_foldl_join (dir : Path) {names : List String} (h : ∀ s ∈ names, IsPlain s)
    (work : Place) : goal (names.foldl join dir) work = goal dir work ++ names := by
  rw [goal, components_foldl_join dir h, List.foldl_append, ← goal, foldl_follow_names]

/-- A plain name behind a directory is the file name. -/
theorem fileName?_join (dir : Path) (h : IsPlain s) : fileName? (dir.join s) = some s := by
  rw [fileName?, getLast?_components_join dir h]

/-- A plain name behind a directory is the name of the place. -/
theorem getLast?_goal_join (dir : Path) (h : IsPlain s) (work : Place) :
    (goal (dir.join s) work).getLast? = some s :=
  getLast?_goal (getLast?_components_join dir h)

/-- A path with another name for its last component leads to that name. -/
theorem getLast?_goal_withFileName (p : Path) (h : IsPlain s) (work : Place) :
    (goal (p.withFileName s) work).getLast? = some s := by
  rw [withFileName]
  split
  · exact getLast?_goal_join p.parent h work
  · exact getLast?_goal_join p h work

end

end Wiring.Disk.Path
