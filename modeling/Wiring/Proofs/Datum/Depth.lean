import Wiring.Proofs.Datum.Decode

/-!
# Trees that are cut off

A reader that goes down to a depth has no value for the lists and records that stand deeper
(`Datum.within`). It keeps a tree as it is exactly if that is not nested deeper
(`Datum.within_of_nesting_le`, `Datum.nesting_le_of_isReadable`). A value that needs all of its tree
(`Datum.Needs`) is not read from one that was cut off, and a structure needs what its fields need.
-/

namespace Wiring

/-- Induction on a tree, with a hypothesis for each item and each field. -/
theorem Datum.recData {motive : Datum → Prop}
    (null : motive .null)
    (bool : ∀ b, motive (.bool b))
    (int : ∀ n, motive (.int n))
    (float : ∀ x, motive (.float x))
    (text : ∀ s, motive (.text s))
    (unreadable : motive .unreadable)
    (list : ∀ ds, (∀ d ∈ ds, motive d) → motive (.list ds))
    (record : ∀ fs, (∀ f ∈ fs, motive f.2) → motive (.record fs)) : ∀ d, motive d
  | .null => null
  | .bool b => bool b
  | .int n => int n
  | .float x => float x
  | .text s => text s
  | .unreadable => unreadable
  | .list ds => list ds fun d _ => recData null bool int float text unreadable list record d
  | .record fs => record fs fun _ _ => recData null bool int float text unreadable list record _
termination_by d => sizeOf d
decreasing_by
  · have h := List.sizeOf_lt_of_mem ‹_ ∈ _›; simp; omega
  · rename_i f h
    have h := List.sizeOf_lt_of_mem h
    obtain ⟨name, d⟩ := f
    simp at h ⊢; omega

namespace Datum

mutual

/-- The number of lists and records on the longest way down. -/
def nesting : Datum → Nat
  | .list items => nestingOfItems items + 1
  | .record fields => nestingOfFields fields + 1
  | _ => 0

/-- The nesting of the deepest of some trees. -/
def nestingOfItems : List Datum → Nat
  | [] => 0
  | d :: rest => max d.nesting (nestingOfItems rest)

/-- The nesting of the deepest field. -/
def nestingOfFields : List (String × Datum) → Nat
  | [] => 0
  | (_, d) :: rest => max d.nesting (nestingOfFields rest)

end

mutual

/-- The tree with no value for the lists and records that stand in as many others as there are
levels. -/
def within (levels : Nat) : Datum → Datum
  | .list items =>
    match levels with
    | 0 => .unreadable
    | n + 1 => .list (itemsWithin n items)
  | .record fields =>
    match levels with
    | 0 => .unreadable
    | n + 1 => .record (fieldsWithin n fields)
  | d => d

/-- `within` over the items of a list. -/
def itemsWithin (levels : Nat) : List Datum → List Datum
  | [] => []
  | d :: rest => d.within levels :: itemsWithin levels rest

/-- `within` over the fields of a record. -/
def fieldsWithin (levels : Nat) : List (String × Datum) → List (String × Datum)
  | [] => []
  | (name, d) :: rest => (name, d.within levels) :: fieldsWithin levels rest

end

section
variable {n : Nat} {d : Datum} {items : List Datum} {fields : List (String × Datum)}

/-- The items of a list are cut at a level one by one. -/
theorem itemsWithin_eq : itemsWithin n items = items.map (within n) := by
  induction items with
  | nil => simp [itemsWithin]
  | cons d rest ih => simp [itemsWithin, ih]

/-- The fields of a record are cut at a level one by one. -/
theorem fieldsWithin_eq : fieldsWithin n fields = fields.map fun f => (f.1, f.2.within n) := by
  induction fields with
  | nil => simp [fieldsWithin]
  | cons f rest ih => simp [fieldsWithin, ih]

@[simp] theorem within_text (s : String) : (text s).within n = .text s := rfl

@[simp] theorem within_int (i : Int) : (int i).within n = .int i := rfl

@[simp] theorem within_list_zero : (list items).within 0 = .unreadable := rfl

@[simp] theorem within_record_zero : (record fields).within 0 = .unreadable := rfl

@[simp] theorem within_list_succ :
    (list items).within (n + 1) = .list (items.map (within n)) :=
  congrArg list itemsWithin_eq

@[simp] theorem within_record_succ :
    (record fields).within (n + 1) = .record (fields.map fun f => (f.1, f.2.within n)) :=
  congrArg record fieldsWithin_eq

/-! ## Nesting -/

@[simp] theorem nesting_text (s : String) : (text s).nesting = 0 := rfl

@[simp] theorem nesting_int (i : Int) : (int i).nesting = 0 := rfl

/-- A list is nested one level deeper than its items. -/
theorem nesting_list_le : (list items).nesting ≤ n + 1 ↔ ∀ d ∈ items, d.nesting ≤ n := by
  rw [nesting, Nat.add_le_add_iff_right]
  induction items with
  | nil => simp [nestingOfItems]
  | cons d rest ih => rw [nestingOfItems, Nat.max_le, ih, List.forall_mem_cons]

/-- A record is nested one level deeper than the values of its fields. -/
theorem nesting_record_le : (record fields).nesting ≤ n + 1 ↔ ∀ f ∈ fields, f.2.nesting ≤ n := by
  rw [nesting, Nat.add_le_add_iff_right]
  induction fields with
  | nil => simp [nestingOfFields]
  | cons f rest ih => rw [nestingOfFields, Nat.max_le, ih, List.forall_mem_cons]

/-- A tree that is not nested too deep is kept. -/
theorem within_of_nesting_le (h : d.nesting ≤ n) : d.within n = d := by
  induction d using recData generalizing n with
  | null | bool | int | float | text | unreadable => rfl
  | list items ih =>
    cases n with
    | zero => exact absurd h (by rw [nesting]; omega)
    | succ n =>
      have hitems := nesting_list_le.1 h
      rw [within_list_succ, List.map_congr_left fun d hd => ih d hd (hitems d hd), List.map_id']
  | record fields ih =>
    cases n with
    | zero => exact absurd h (by rw [nesting]; omega)
    | succ n =>
      have hfields := nesting_record_le.1 h
      have hkeep : ∀ f ∈ fields, (f.1, f.2.within n) = f :=
        fun f hf => Prod.ext rfl (ih f hf (hfields f hf))
      rw [within_record_succ, List.map_congr_left hkeep, List.map_id']

/-- What is readable although it was cut off was not nested too deep. -/
theorem nesting_le_of_isReadable (h : (d.within n).isReadable = true) : d.nesting ≤ n := by
  induction d using recData generalizing n with
  | null | bool | int | float | text | unreadable => exact Nat.zero_le n
  | list items ih =>
    cases n with
    | zero => cases h
    | succ n =>
      rw [within_list_succ] at h
      exact nesting_list_le.2 fun d hd =>
        ih d hd (isReadable_list.1 h _ (List.mem_map_of_mem hd))
  | record fields ih =>
    cases n with
    | zero => cases h
    | succ n =>
      rw [within_record_succ] at h
      exact nesting_record_le.2 fun f hf =>
        ih f hf (isReadable_record.1 h _ (List.mem_map_of_mem hf))

end

/-! ## Readers that need all of a tree -/

/-- Nothing is read from the tree after it was cut off. -/
def Needs {α : Type} (read : Datum → Option α) (d : Datum) : Prop :=
  ∀ n a, read (d.within n) = some a → d.nesting ≤ n

section
variable {α β : Type} {n : Nat} {d : Datum} {read : Datum → Option β} {write : α → Datum}

@[simp] theorem columns?_unreadable (names : List String) : unreadable.columns? names = none := rfl

/-- A field is found in the same place after the values have changed. -/
@[simp] theorem single?_map (name : String) (g : Datum → Datum) (fields : List (String × Datum)) :
    single? name (fields.map fun f => (f.1, g f.2)) = (single? name fields).map (Option.map g) := by
  have hfilter : (fields.map fun f => (f.1, g f.2)).filter (·.1 == name) =
      (fields.filter (·.1 == name)).map fun f => (f.1, g f.2) := List.filter_map
  rw [single?, single?, hfilter]
  generalize fields.filter (·.1 == name) = found
  rcases found with _ | ⟨f, _ | ⟨f', rest⟩⟩ <;> rfl

/-- What stands before the name of a case is needed for the name. -/
theorem nesting_le_of_tagged? {style : Style} {tag name : String} {cases : List String}
    (h : (d.within n).tagged? style tag cases = some name) : d.nesting ≤ n := by
  refine nesting_le_of_isReadable ?_
  by_contra hunreadable
  simp [tagged?.eq_def, hunreadable] at h

/-- A record is needed if it is not passed over, and if its fields are needed. -/
theorem needs_record {fields : List (String × Datum)} (hnone : read .unreadable = none)
    (h : ∀ n b, read ((record fields).within (n + 1)) = some b → (record fields).nesting ≤ n + 1) :
    Needs read (.record fields) := by
  intro n b hb
  cases n with
  | zero =>
    rw [within_record_zero, hnone] at hb
    cases hb
  | succ n => exact h n b hb

/-- A list is needed if its items are. -/
theorem needs_list {as : List α} (h : ∀ a ∈ as, Needs read (write a)) :
    Needs (listOf read) (.list (as.map write)) := by
  intro n bs hbs
  cases n with
  | zero => cases hbs
  | succ n =>
    refine nesting_list_le.2 (List.forall_mem_map.2 ?_)
    rw [within_list_succ, listOf, List.map_map] at hbs
    induction as generalizing bs with
    | nil => exact List.forall_mem_nil _
    | cons a rest ih =>
      obtain ⟨ha, hrest⟩ := List.forall_mem_cons.1 h
      rw [List.map_cons, List.mapM_cons] at hbs
      obtain ⟨b, hb, hbs⟩ := Option.bind_eq_some_iff.1 hbs
      obtain ⟨bs', hbs', -⟩ := Option.bind_eq_some_iff.1 hbs
      exact List.forall_mem_cons.2 ⟨ha n b hb, ih hrest _ hbs'⟩

/-- A field that is written when it has items is needed if these are. -/
theorem nesting_le_of_listField {name : String} {as : List α} {bs : List β}
    (h : ∀ a ∈ as, Needs read (write a))
    (hread : defaulting [] (listOf read)
      ((unlessEmpty as (.list (as.map write))).map (within n)) = some bs) :
    ∀ f ∈ listField name write as, f.2.nesting ≤ n := by
  cases as with
  | nil => exact List.forall_mem_nil _
  | cons a rest => exact List.forall_mem_singleton.2 (needs_list h n bs hread)

/-- A field that is written when it has a value is needed if this is. -/
theorem nesting_le_of_optionalField {name : String} {a? : Option α} {b? : Option β}
    (h : ∀ a, a? = some a → Needs read (write a))
    (hread : optional read (a?.map (within n ∘ write)) = some b?) :
    ∀ f ∈ optionalField name write a?, f.2.nesting ≤ n := by
  refine forall_optionalField.2 fun a ha => ?_
  rw [ha, Option.map_some, Function.comp_apply, optional.eq_def] at hread
  split at hread
  · next hnull =>
    refine nesting_le_of_isReadable (n := n) ?_
    rw [Option.some.inj hnull]
    rfl
  · next heq =>
    obtain ⟨b, hb, -⟩ := Option.map_eq_some_iff.1 hread
    rw [← Option.some.inj heq] at hb
    exact h a ha n b hb
  · next heq => cases heq

end

end Datum

end Wiring
