import Mathlib.Data.Set.List
import Wiring.Proofs.Disk.Path

/-!
# Spellings of a path in a directory

Two paths that are seen from a directory may have the same components there although they are
written differently: for empty fields and single dots, or because one of them spells out the
directory. These are the only cases (`same_join_iff`). Paths that go down from a directory lead to
one place exactly if their trails, which leave out empty fields and dots, are the same
(`goal_join_eq_iff`).
-/

namespace Wiring.Disk.Path

/-- Whether a path starts with a dot as its first field. -/
def isDotted (p : Path) : Bool :=
  (Text.fields '/' p).head? == some "."

/-- What makes two paths the same seen from a directory. A dot at the start counts only if there is
no directory in front of it, and an absolute path has to spell out the directory. -/
def SameIn (dir p q : Path) : Prop :=
  match p.isAbsolute, q.isAbsolute with
  | false, false => p.trail = q.trail ∧ (dir = "" → p.isDotted = q.isDotted)
  | true, true => p.trail = q.trail
  | true, false => dir.isAbsolute = true ∧ p.trail = dir.trail ++ q.trail
  | false, true => dir.isAbsolute = true ∧ q.trail = dir.trail ++ p.trail

/-- A path that goes down from wherever it is seen. -/
structure Descends (p : Path) : Prop where
  isAbsolute : p.isAbsolute = false
  parent : .parent ∉ p.trail

instance (p : Path) : Decidable (Descends p) :=
  decidable_of_iff (p.isAbsolute = false ∧ .parent ∉ p.trail)
    ⟨fun ⟨h₁, h₂⟩ => ⟨h₁, h₂⟩, fun ⟨h₁, h₂⟩ => ⟨h₁, h₂⟩⟩

section
variable {dir p q : Path} {work : Place}

/-! ## Components and trails -/

/-- A step goes up or to a name. -/
theorem mem_steps {fields : List String} {step : Component} (h : step ∈ steps fields) :
    step = .parent ∨ ∃ s, step = .name s := by
  obtain ⟨s, -, hs⟩ := List.mem_filterMap.1 h
  split at hs
  · cases hs
  · split at hs <;> cases hs
    · exact .inl rfl
    · exact .inr ⟨s, rfl⟩

/-- An absolute path begins at the root. -/
theorem components_of_isAbsolute (h : p.isAbsolute = true) : p.components = .root :: p.trail := by
  obtain ⟨cs, hcs⟩ : ∃ cs, p.toList = '/' :: cs := by
    rw [isAbsolute, beq_iff_eq] at h
    exact List.head?_eq_some_iff.1 h
  have hfields : Text.fields '/' p = "" :: (Text.pieces '/' cs).map String.ofList := by
    rw [Text.fields, hcs, Text.pieces, if_pos rfl]
    rfl
  rw [components, trail, hfields]
  simp [h, steps]

/-- A relative path begins where it is, or with its first step. -/
theorem components_of_relative (h : p.isAbsolute = false) :
    p.components = if p.isDotted then .current :: p.trail else p.trail := by
  obtain ⟨first, rest, hfields⟩ : ∃ first rest, Text.fields '/' p = first :: rest := by
    refine List.exists_cons_of_ne_nil fun hnil => ?_
    exact Text.pieces_ne_nil '/' p.toList (List.map_eq_nil_iff.1 hnil)
  rw [components, isDotted, trail, hfields]
  by_cases hdot : first = "."
  · simp [h, hdot, steps]
  · simp [h, hdot]

/-- A relative path does not hold the root. -/
theorem root_notMem_components (h : p.isAbsolute = false) : .root ∉ p.components := by
  have htrail : .root ∉ p.trail := fun hmem => by
    rcases mem_steps hmem with h | ⟨s, h⟩ <;> cases h
  rw [components_of_relative h]
  split
  · simpa using htrail
  · exact htrail

/-- An absolute path is not empty. -/
theorem ne_empty_of_isAbsolute (h : dir.isAbsolute = true) : dir ≠ "" := by
  rintro rfl
  cases h

/-- An absolute path does not depend on the directory it is joined to. -/
theorem join_of_isAbsolute (h : p.isAbsolute = true) : dir.join p = p := by
  rw [join, if_pos h]

/-- A path joined to the empty one is the path. -/
theorem join_empty (p : Path) : join "" p = p := by
  rw [join]
  split
  · rfl
  · simp

/-- A plain name does not go up. -/
theorem IsPlain.descends {s : String} (h : IsPlain s) : Descends s :=
  ⟨h.isAbsolute, by simp [h.trail]⟩

/-! ## Same paths -/

/-- Paths are the same if their components are. -/
theorem same_iff : p.same q = true ↔ p.components = q.components := by
  rw [same, decide_eq_true_iff]

/-- Relative paths are the same if nothing but empty fields and dots makes a difference, and a dot
at the start neither if there is a directory in front of it. -/
theorem same_join_of_relative (hp : p.isAbsolute = false) (hq : q.isAbsolute = false) :
    (dir.join p).same (dir.join q) = true ↔
      p.trail = q.trail ∧ (dir = "" → p.isDotted = q.isDotted) := by
  rw [same_iff]
  by_cases hdir : dir = ""
  · have hcurrent (p : Path) (l : List Component) : p.trail ≠ .current :: l := fun h => by
      rcases mem_steps (show .current ∈ p.trail from h ▸ .head _) with h | ⟨s, h⟩ <;> cases h
    rw [hdir, join_empty, join_empty, components_of_relative hp, components_of_relative hq]
    cases p.isDotted <;> cases q.isDotted <;> simp [hcurrent, (hcurrent _ _).symm]
  · rw [components_join_of_relative hdir hp, components_join_of_relative hdir hq,
      List.append_cancel_left_eq]
    exact ⟨fun h => ⟨h, fun hempty => absurd hempty hdir⟩, And.left⟩

/-- An absolute path is the same as a relative one only if it spells out the directory. -/
theorem same_join_of_isAbsolute (hp : p.isAbsolute = true) (hq : q.isAbsolute = false) :
    (dir.join p).same (dir.join q) = true ↔
      dir.isAbsolute = true ∧ p.trail = dir.trail ++ q.trail := by
  rw [same_iff, join_of_isAbsolute hp, components_of_isAbsolute hp]
  cases hdir : dir.isAbsolute with
  | true =>
    rw [components_join_of_relative (ne_empty_of_isAbsolute hdir) hq, components_of_isAbsolute hdir]
    simp
  | false =>
    have hroot : .root ∉ (dir.join q).components := by
      by_cases hempty : dir = ""
      · rw [hempty, join_empty]
        exact root_notMem_components hq
      · refine root_notMem_components ?_
        rw [isAbsolute_join hempty hq, hdir]
    exact ⟨fun h => absurd (h ▸ List.mem_cons_self) hroot, nofun⟩

/-- The cases in which two paths are the same seen from a directory. -/
theorem same_join_iff : (dir.join p).same (dir.join q) = true ↔ SameIn dir p q := by
  rw [SameIn]
  cases hp : p.isAbsolute <;> cases hq : q.isAbsolute
  · exact same_join_of_relative hp hq
  · rw [same_iff, eq_comm, ← same_iff]
    exact same_join_of_isAbsolute hq hp
  · exact same_join_of_isAbsolute hp hq
  · rw [same_iff, join_of_isAbsolute hp, join_of_isAbsolute hq, components_of_isAbsolute hp,
      components_of_isAbsolute hq]
    simp

/-! ## Places -/

/-- The same paths lead to the same place. -/
theorem goal_eq_of_same (h : p.same q = true) (work : Place) : p.goal work = q.goal work := by
  rw [goal, goal, same_iff.1 h]

/-- An absolute path has the same goal from everywhere. -/
theorem goal_of_isAbsolute (h : p.isAbsolute = true) (work work' : Place) :
    p.goal work = p.goal work' := by
  rw [goal, goal, components_of_isAbsolute h]
  rfl

/-- The trail of a path that never leads up consists of names. -/
theorem exists_trail_eq (h : .parent ∉ p.trail) :
    ∃ names : List String, p.trail = names.map .name := by
  have hrange : p.trail ∈ Set.range (List.map Component.name) := by
    rw [Set.range_list_map]
    intro step hstep
    rcases mem_steps hstep with rfl | ⟨s, rfl⟩
    · exact absurd hstep h
    · exact ⟨s, rfl⟩
  obtain ⟨names, hnames⟩ := hrange
  exact ⟨names, hnames.symm⟩

/-- A path whose trail consists of names leads down from the root or from the working directory. -/
theorem goal_of_trail {names : List String} (hnames : p.trail = names.map .name) (work : Place) :
    p.goal work = (if p.isAbsolute then [] else work) ++ names := by
  rw [goal]
  cases hp : p.isAbsolute with
  | true =>
    rw [components_of_isAbsolute hp, hnames]
    exact foldl_follow_names [] names
  | false =>
    rw [components_of_relative hp, hnames]
    split <;> exact foldl_follow_names work names

/-- A path that goes down from a directory leads to the place at the end of its trail. -/
theorem goal_join_of_trail {names : List String} (h : p.isAbsolute = false)
    (hnames : p.trail = names.map .name) : goal (dir.join p) work = goal dir work ++ names := by
  by_cases hdir : dir = ""
  · have hempty : components "" = [] := by decide
    have hgoal : goal "" work = work := by rw [goal, hempty, List.foldl_nil]
    rw [hdir, join_empty, hgoal, goal_of_trail hnames, h, if_neg Bool.false_ne_true]
  · rw [goal, components_join_of_relative hdir h, List.foldl_append, ← goal, hnames,
      foldl_follow_names]

/-- Paths that go down from a directory lead to one place only if they have one trail. -/
theorem goal_join_eq_iff (hp : Descends p) (hq : Descends q) :
    goal (dir.join p) work = goal (dir.join q) work ↔ p.trail = q.trail := by
  obtain ⟨names, hnames⟩ := exists_trail_eq hp.parent
  obtain ⟨names', hnames'⟩ := exists_trail_eq hq.parent
  rw [goal_join_of_trail hp.isAbsolute hnames, goal_join_of_trail hq.isAbsolute hnames', hnames,
    hnames', List.append_cancel_left_eq, List.map_inj_right fun _ _ => Component.name.inj]

end

end Wiring.Disk.Path
