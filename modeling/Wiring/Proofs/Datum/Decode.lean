import Mathlib.Data.List.Induction
import Mathlib.Data.String.Basic
import Wiring.Datum.Decode

/-!
# Reading what was written

What the readers of data trees find in a record that was put together from the fields of a
structure. Each part of a record is known by what `single?` finds in it, and `single?` of two parts
is known from both (`single?_append`), so the columns of a record are computed without a case for
each field that may be left out.
-/

namespace Wiring.Datum

section
variable {α β : Type}

/-! ## Fields -/

/-- What is found of a field in two parts of a record: it must not stand in both. -/
def both : Option (Option Datum) → Option (Option Datum) → Option (Option Datum)
  | some none, y => y
  | x, some none => x
  | _, _ => none

@[simp] theorem both_none_left (y : Option (Option Datum)) : both (some none) y = y := by
  cases y <;> rfl

@[simp] theorem both_none_right (x : Option (Option Datum)) : both x (some none) = x := by
  rcases x with _ | _ | _ <;> rfl

@[simp] theorem single?_append (name : String) (a b : List (String × Datum)) :
    single? name (a ++ b) = both (single? name a) (single? name b) := by
  rw [single?, single?, single?, List.filter_append]
  generalize a.filter (·.1 == name) = as, b.filter (·.1 == name) = bs
  rcases as with _ | ⟨x, _ | ⟨x', as⟩⟩ <;> rcases bs with _ | ⟨y, _ | ⟨y', bs⟩⟩ <;> rfl

@[simp] theorem single?_nil (name : String) : single? name [] = some none := rfl

@[simp] theorem single?_cons (name other : String) (d : Datum) (rest : List (String × Datum)) :
    single? name ((other, d) :: rest) =
      if other = name then both (some (some d)) (single? name rest) else single? name rest := by
  split
  · next h =>
    rw [← List.singleton_append, single?_append, h]
    simp [single?]
  · next h => simp [single?, h]

@[simp] theorem single?_optionalField (name other : String) (write : α → Datum) (a? : Option α) :
    single? name (optionalField other write a?) =
      if other = name then some (a?.map write) else some none := by
  cases a? <;> simp [optionalField]

/-- A field that may be left out has a property if it is left out, or its value has it. -/
theorem forall_optionalField {P : String × Datum → Prop} {name : String} {write : α → Datum}
    {a? : Option α} :
    (∀ field ∈ optionalField name write a?, P field) ↔ ∀ a, a? = some a → P (name, write a) := by
  cases a? <;> simp [optionalField]

/-- What is found of a field that is written only when it has entries. -/
def unlessEmpty (entries : List α) (d : Datum) : Option Datum :=
  if entries.isEmpty then none else some d

@[simp] theorem single?_listField (name other : String) (write : α → Datum) (items : List α) :
    single? name (listField other write items) =
      if other = name then some (unlessEmpty items (.list (items.map write))) else some none := by
  cases items <;> simp [listField, unlessEmpty]

@[simp] theorem single?_mapField (name other : String) (write : α → Datum)
    (entries : List (String × α)) : single? name (mapField other write entries) =
      if other = name then
        some (unlessEmpty entries (.record (entries.map fun e => (e.1, write e.2))))
      else some none := by
  cases entries <;> simp [mapField, unlessEmpty]

/-! ## Columns -/

@[simp] theorem columnsAs?_record (style : Style) (names : List String)
    (fields : List (String × Datum)) :
    (record fields).columnsAs? style names = names.mapM (single? · fields) := rfl

@[simp] theorem columns?_record (names : List String) (fields : List (String × Datum)) :
    (record fields).columns? names = names.mapM (single? · fields) := rfl

@[simp] theorem strictColumns?_record (style : Style) (names : List String)
    (fields : List (String × Datum)) : (record fields).strictColumns? style names =
      if fields.all (names.contains ·.1) then names.mapM (single? · fields) else none := rfl

@[simp] theorem all_optionalField (p : String × Datum → Bool) (name : String) (write : α → Datum)
    (a? : Option α) : (optionalField name write a?).all p = a?.all fun a => p (name, write a) := by
  cases a? <;> simp [optionalField]

@[simp] theorem all_listField (p : String × Datum → Bool) (name : String) (write : α → Datum)
    (items : List α) : (listField name write items).all p =
      (items.isEmpty || p (name, .list (items.map write))) := by
  cases items <;> simp [listField]

@[simp] theorem all_mapField (p : String × Datum → Bool) (name : String) (write : α → Datum)
    (entries : List (String × α)) : (mapField name write entries).all p =
      (entries.isEmpty || p (name, .record (entries.map fun (n, a) => (n, write a)))) := by
  cases entries <;> simp [mapField]

@[simp] theorem required_some (read : Datum → Option α) (d : Datum) :
    required read (some d) = read d := rfl

@[simp] theorem defaulting_some (a : α) (read : Datum → Option α) (d : Datum) :
    defaulting a read (some d) = read d := rfl

@[simp] theorem text?_text (s : String) : (text s).text? = some s := rfl

@[simp] theorem bool?_bool (b : Bool) : (bool b).bool? = some b := rfl

@[simp] theorem caseName?_text (style : Style) (s : String) :
    (text s).caseName? style = some s := rfl

/-- A value that may be absent is read back as it is changed, if what is written is never null. -/
theorem optional_map {read : Datum → Option β} {write : α → Datum} {f : α → β} {a? : Option α}
    (h : ∀ a, a? = some a → write a ≠ .null ∧ read (write a) = some (f a)) :
    optional read (a?.map write) = some (a?.map f) := by
  cases a? with
  | none => rfl
  | some a =>
    obtain ⟨hnull, hread⟩ := h a rfl
    rw [Option.map_some, optional.eq_def]
    split
    · next heq => exact absurd (Option.some.inj heq) hnull
    · next heq => rw [← Option.some.inj heq, hread, Option.map_some, Option.map_some]
    · next heq => cases heq

/-- A value that may be absent is read back, if what is written is never null. -/
theorem optional_map_self {read : Datum → Option α} {write : α → Datum}
    (hnull : ∀ a, write a ≠ .null) (hread : ∀ a, read (write a) = some a) (a? : Option α) :
    optional read (a?.map write) = some a? := by
  rw [optional_map (f := id) fun a _ => ⟨hnull a, hread a⟩, Option.map_id_fun, id]

@[simp] theorem optional_text (s? : Option String) : optional text? (s?.map .text) = some s? :=
  optional_map_self (fun s (h : text s = .null) => nomatch h) (fun _ => rfl) s?

@[simp] theorem optional_bool (b? : Option Bool) : optional bool? (b?.map .bool) = some b? :=
  optional_map_self (fun b (h : bool b = .null) => nomatch h) (fun _ => rfl) b?

/-- Entries that are left out when there are none are read back as they are changed. -/
theorem defaulting_unlessEmpty {read : Datum → Option (List β)} {d : Datum} {entries : List α}
    {f : α → β} (h : read d = some (entries.map f)) :
    defaulting [] read (unlessEmpty entries d) = some (entries.map f) := by
  cases entries with
  | nil => rfl
  | cons => exact h

/-- Entries that are left out when there are none are read back. -/
theorem defaulting_unlessEmpty_self {read : Datum → Option (List α)} {d : Datum} {entries : List α}
    (h : read d = some entries) : defaulting [] read (unlessEmpty entries d) = some entries := by
  cases entries with
  | nil => rfl
  | cons => exact h

/-! ## Unions -/

@[simp] theorem isReadable_text (s : String) : (text s).isReadable = true := rfl

@[simp] theorem isReadable_int (n : Int) : (int n).isReadable = true := rfl

/-- A list is readable if its items are. -/
theorem isReadable_list {ds : List Datum} :
    (list ds).isReadable = true ↔ ∀ d ∈ ds, d.isReadable = true := by
  rw [isReadable]
  induction ds with
  | nil => simp [areReadable]
  | cons d rest ih => rw [areReadable, Bool.and_eq_true, ih, List.forall_mem_cons]

/-- A record is readable if its fields are. -/
theorem isReadable_record {fields : List (String × Datum)} :
    (record fields).isReadable = true ↔ ∀ f ∈ fields, f.2.isReadable = true := by
  rw [isReadable]
  induction fields with
  | nil => simp [fieldsAreReadable]
  | cons f rest ih => rw [fieldsAreReadable, Bool.and_eq_true, ih, List.forall_mem_cons]

/-! ## Heights -/

/-- An item of a list is less high than the list. -/
theorem height_of_mem_list {d : Datum} {ds : List Datum} (h : d ∈ ds) :
    d.height < (list ds).height := by
  rw [Datum.height]
  induction ds with
  | nil => cases h
  | cons first rest ih =>
    rw [Datum.heightOfItems]
    rcases List.mem_cons.1 h with rfl | h
    · omega
    · have := ih h
      omega

/-- The value of a field is less high than the record. -/
theorem height_of_mem_record {f : String × Datum} {fs : List (String × Datum)} (h : f ∈ fs) :
    f.2.height < (record fs).height := by
  rw [Datum.height]
  induction fs with
  | nil => cases h
  | cons first rest ih =>
    obtain ⟨n, d⟩ := first
    rw [Datum.heightOfFields]
    rcases List.mem_cons.1 h with rfl | h
    · change d.height < _
      omega
    · have := ih h
      omega

/-- Each field of a record is lower than a bound of the record. -/
theorem of_height_record_le {fields : List (String × Datum)} {depth : Nat}
    (h : (record fields).height ≤ depth) : ∃ k, depth = k + 1 ∧ ∀ f ∈ fields, f.2.height ≤ k := by
  obtain ⟨k, rfl⟩ : ∃ k, depth = k + 1 := by
    rw [height] at h
    exact ⟨depth - 1, by omega⟩
  exact ⟨k, rfl, fun f hf => Nat.le_of_lt_succ (Nat.lt_of_lt_of_le (height_of_mem_record hf) h)⟩

/-- What is written in a list field is lower than a bound of the field. -/
theorem height_le_of_listField {name : String} {write : α → Datum} {items : List α} {k : Nat}
    (h : ∀ f ∈ listField name write items, f.2.height ≤ k) : ∀ a ∈ items, (write a).height ≤ k := by
  intro a ha
  have hlist : (list (items.map write)).height ≤ k := by
    cases items with
    | nil => cases ha
    | cons => exact h _ (.head _)
  exact Nat.le_of_lt (Nat.lt_of_lt_of_le (height_of_mem_list (List.mem_map_of_mem ha)) hlist)

/-! ## Lists and maps -/

/-- Items that are written one by one are read back as they are changed. -/
theorem listOf_map {read : Datum → Option β} {write : α → Datum} {f : α → β} {as : List α}
    (h : ∀ a ∈ as, read (write a) = some (f a)) :
    listOf read (.list (as.map write)) = some (as.map f) := by
  rw [listOf]
  induction as with
  | nil => rfl
  | cons a rest ih =>
    obtain ⟨ha, hrest⟩ := List.forall_mem_cons.1 h
    rw [List.map_cons, List.mapM_cons, ha, ih hrest]
    rfl

/-- Items that are written one by one are read back. -/
theorem listOf_map_self {read : Datum → Option α} {write : α → Datum}
    (h : ∀ a, read (write a) = some a) (as : List α) :
    listOf read (.list (as.map write)) = some as := by
  rw [listOf_map (f := id) fun a _ => h a, List.map_id]

/-- Steps that each add one member at the end. -/
theorem foldlM_concat {step : List β → α → Option (List β)} {f : α → β} {as : List α}
    (h : ∀ before a after, as = before ++ a :: after →
      step (before.map f) a = some (before.map f ++ [f a])) :
    as.foldlM step [] = some (as.map f) := by
  induction as using List.reverseRecOn with
  | nil => rfl
  | append_singleton before a ih =>
    have hbefore := ih fun before' a' after heq =>
      h before' a' (after ++ [a]) (by rw [heq, List.append_assoc, List.cons_append])
    rw [List.foldlM_append, hbefore, List.map_append]
    simp [h before a [] rfl]

/-- A field whose name comes after all others is put at the end. -/
theorem insertField_of_lt {name : String} {a : α} {done : List (String × α)}
    (h : ∀ e ∈ done, e.1 < name) : insertField name a done = done ++ [(name, a)] := by
  induction done with
  | nil => rfl
  | cons e rest ih =>
    obtain ⟨n, b⟩ := e
    obtain ⟨hn, hrest⟩ := List.forall_mem_cons.1 h
    rw [insertField, if_neg (ne_of_gt hn), if_neg (lt_asymm hn), ih hrest, List.cons_append]

/-- Named values that are sorted by name are read back in their order. -/
theorem mapOf_record {read : Datum → Option β} {write : α → Datum} {f : α → β}
    {entries : List (String × α)} (hsorted : (entries.map (·.1)).Pairwise (· < ·))
    (h : ∀ e ∈ entries, read (write e.2) = some (f e.2)) :
    mapOf read (.record (entries.map fun e => (e.1, write e.2))) =
      some (entries.map fun e => (e.1, f e.2)) := by
  rw [mapOf, List.foldlM_map]
  refine foldlM_concat fun before e after heq => ?_
  obtain ⟨n, a⟩ := e
  have hbefore : ∀ e ∈ before.map fun e => (e.1, f e.2), e.1 < n := by
    rw [heq, List.map_append, List.map_cons] at hsorted
    intro e he
    obtain ⟨e', he', rfl⟩ := List.mem_map.1 he
    exact (List.pairwise_append.1 hsorted).2.2 _ (List.mem_map_of_mem he') _ (.head _)
  have ha : read (write a) = some (f a) := h (n, a) (heq ▸ List.mem_append_right _ (.head _))
  simp [ha, insertField_of_lt hbefore]

end

end Wiring.Datum
