import Wiring.Binding.Codec
import Wiring.Proofs.Binding.Satisfiable
import Wiring.Proofs.Descriptor.Codec

/-!
# Bindings are read back

A binding is read back from its record with `null` in place of each double that is none, whatever
the style of the tree and wherever the binding stands in it (`Binding.ofDatumTo?_toDatum`). The
reader goes down as far as the tree is high, and the tree of a part is lower than that of the whole.
-/

namespace Wiring

namespace ArrayKey

/-- A key is read back from what it is written as. -/
theorem ofDatum?_toDatum (key : ArrayKey) : ofDatum? key.toDatum = some key := by
  cases key with
  | index n => rw [toDatum, ofDatum?, if_pos (Literal.isInt64_toInt n), Int64.ofInt_toInt]
  | name s => rfl

@[simp] theorem isReadable_toDatum (key : ArrayKey) : key.toDatum.isReadable = true := by
  cases key <;> rfl

end ArrayKey

namespace Binding

/-! ## Entries and named values -/

section
variable {α β : Type} {read : Datum → Option β} {write : α → Datum} {f : α → β}

@[simp] theorem optional_key (key : Option ArrayKey) :
    Datum.optional ArrayKey.ofDatum? (key.map ArrayKey.toDatum) = some key :=
  Datum.optional_map_self (fun key => by cases key <;> exact nofun) ArrayKey.ofDatum?_toDatum key

@[simp] theorem isReadable_entryDatum (key : Option ArrayKey) (d : Datum) :
    (entryDatum key d).isReadable = d.isReadable := by
  cases key <;> simp [entryDatum, Datum.optionalField, Datum.isReadable, Datum.fieldsAreReadable]

/-- The value of an entry is lower than the list of the entries. -/
theorem height_of_mem_entries {es : List (Option ArrayKey × α)} {e : Option ArrayKey × α}
    (he : e ∈ es) :
    (write e.2).height < (Datum.list (es.map fun e => entryDatum e.1 (write e.2))).height := by
  have hlist := Datum.height_of_mem_list (List.mem_map_of_mem (f := fun e : Option ArrayKey × α =>
    entryDatum e.1 (write e.2)) he)
  have hentry : (write e.2).height < (entryDatum e.1 (write e.2)).height :=
    Datum.height_of_mem_record (f := ("value", write e.2)) (by simp)
  omega

/-- The entries of an array are read back if their values are. -/
theorem listOf_keyed {es : List (Option ArrayKey × α)}
    (h : ∀ e ∈ es, read (write e.2) = some (f e.2)) :
    Datum.listOf (keyed? read) (.list (es.map fun e => entryDatum e.1 (write e.2))) =
      some (es.map fun e => (e.1, f e.2)) :=
  Datum.listOf_map fun e he => by simp [keyed?, entryDatum, h e he]

/-- The record of a named value. -/
def namedDatum (field name : String) (d : Datum) : Datum :=
  .record [("name", .text name), (field, d)]

/-- A named value is lower than the list of named values. -/
theorem height_of_mem_named {ps : List (String × α)} {field : String} {p : String × α}
    (hp : p ∈ ps) :
    (write p.2).height <
      (Datum.list (ps.map fun p => namedDatum field p.1 (write p.2))).height := by
  have hlist := Datum.height_of_mem_list (List.mem_map_of_mem (f := fun p : String × α =>
    namedDatum field p.1 (write p.2)) hp)
  have hnamed : (write p.2).height < (namedDatum field p.1 (write p.2)).height :=
    Datum.height_of_mem_record (f := (field, write p.2)) (by simp)
  omega

/-- Named values are read back if the values are. -/
theorem listOf_named {ps : List (String × α)} {field : String} (hfield : field ≠ "name")
    (style : Datum.Style) (h : ∀ p ∈ ps, read (write p.2) = some (f p.2)) :
    Datum.listOf (named? style field read)
        (.list (ps.map fun p => namedDatum field p.1 (write p.2))) =
      some (ps.map fun p => (p.1, f p.2)) :=
  Datum.listOf_map fun p hp => by simp [named?, namedDatum, h p hp, hfield, hfield.symm]

end

/-! ## Bindings -/

mutual

/-- The binding with its literals changed. -/
def mapLiterals (f : Literal → Literal) : Binding → Binding
  | literal v => literal (f v)
  | constant r => constant r
  | env key next => env key (mapNext f next)
  | service id next => service id (mapNext f next)
  | skip => skip
  | array es next => array (mapEntries f es) (mapNext f next)
  | closure s ps next => closure s (mapParams f ps) (mapNext f next)

/-- The fallback with its literals changed. -/
def mapNext (f : Literal → Literal) : Option Binding → Option Binding
  | none => none
  | some b => some (b.mapLiterals f)

/-- The entries of an array with their literals changed. -/
def mapEntries (f : Literal → Literal) :
    List (Option ArrayKey × Binding) → List (Option ArrayKey × Binding)
  | [] => []
  | (key, b) :: rest => (key, b.mapLiterals f) :: mapEntries f rest

/-- Named bindings with their literals changed. -/
def mapParams (f : Literal → Literal) : List (String × Binding) → List (String × Binding)
  | [] => []
  | (name, b) :: rest => (name, b.mapLiterals f) :: mapParams f rest

end

section
variable {f : Literal → Literal}

/-- Changing the literals of a fallback, if there is one. -/
theorem mapNext_eq (next : Option Binding) : mapNext f next = next.map (mapLiterals f) := by
  cases next <;> simp [mapNext]

/-- Changing the literals of entries one by one. -/
theorem mapEntries_eq (es : List (Option ArrayKey × Binding)) :
    mapEntries f es = es.map fun e => (e.1, e.2.mapLiterals f) := by
  induction es with
  | nil => simp [mapEntries]
  | cons e rest ih => simp [mapEntries, ih]

/-- Changing the literals of parameters one by one. -/
theorem mapParams_eq (ps : List (String × Binding)) :
    mapParams f ps = ps.map fun p => (p.1, p.2.mapLiterals f) := by
  induction ps with
  | nil => simp [mapParams]
  | cons p rest ih => simp [mapParams, ih]

/-- A fallback is written as a field that may be left out. -/
theorem fallbackField_eq (next : Option Binding) :
    fallbackField next = Datum.optionalField "fallback" toDatum next := by
  cases next <;> simp [fallbackField, Datum.optionalField]

/-- Entries are written one by one. -/
theorem entriesToDatum_eq (es : List (Option ArrayKey × Binding)) :
    entriesToDatum es = es.map fun e => entryDatum e.1 e.2.toDatum := by
  induction es with
  | nil => simp [entriesToDatum]
  | cons e rest ih => simp [entriesToDatum, ih]

/-- Parameters are written one by one. -/
theorem paramsToDatum_eq (ps : List (String × Binding)) : paramsToDatum ps =
    ps.map fun p => namedDatum "binding" p.1 p.2.toDatum := by
  induction ps with
  | nil => simp [paramsToDatum]
  | cons p rest ih => simp [paramsToDatum, namedDatum, ih]

end

/-- A binding is written with values only. -/
@[simp] theorem isReadable_toDatum (b : Binding) : b.toDatum.isReadable = true := by
  induction b using recData with
  | literal v | constant r | skip => exact Datum.isReadable_record.2 (by simp)
  | env _ next hnext | service _ next hnext =>
    refine Datum.isReadable_record.2 ?_
    rw [fallbackField_eq, List.forall_mem_append, Datum.forall_optionalField]
    exact ⟨by simp, hnext⟩
  | array es next hes hnext =>
    refine Datum.isReadable_record.2 ?_
    have hentries : (Datum.list (entriesToDatum es)).isReadable = true := by
      rw [entriesToDatum_eq]
      refine Datum.isReadable_list.2 (List.forall_mem_map.2 fun e he => ?_)
      rw [isReadable_entryDatum, hes e he]
    rw [fallbackField_eq, List.forall_mem_append, Datum.forall_optionalField]
    exact ⟨by simp [hentries], hnext⟩
  | closure s ps next hps hnext =>
    refine Datum.isReadable_record.2 ?_
    have hparams : (Datum.list (paramsToDatum ps)).isReadable = true := by
      rw [paramsToDatum_eq]
      refine Datum.isReadable_list.2 (List.forall_mem_map.2 fun p hp => ?_)
      exact Datum.isReadable_record.2 (by simp [hps p hp])
    rw [fallbackField_eq, List.forall_mem_append, Datum.forall_optionalField]
    exact ⟨by simp [hparams], hnext⟩

/-- A binding is never written as null. -/
theorem toDatum_ne_null (b : Binding) : b.toDatum ≠ .null := by
  cases b <;> simp [toDatum]

/-- What names the case of a binding is found in its record. -/
theorem tagged?_toDatum (style : Datum.Style) (b : Binding) :
    b.toDatum.tagged? style "kind" cases = some b.kind := by
  have hreadable := b.isReadable_toDatum
  cases b <;>
    simp [toDatum, fallbackField_eq, kind, Datum.tagged?, Datum.tagName?] at hreadable ⊢ <;>
    exact hreadable

/-- A fallback is read back if the binding is. -/
theorem optional_fallback {read : Datum → Option Binding} {next : Option Binding}
    (h : ∀ b, next = some b → read b.toDatum = some (b.mapLiterals .finite)) :
    Datum.optional read (next.map toDatum) = some (next.map (mapLiterals .finite)) :=
  Datum.optional_map fun b hb => ⟨b.toDatum_ne_null, h b hb⟩

/-- A binding is read back from its record if the reader may go down as deep as that is high. -/
theorem ofDatumTo?_toDatum (b : Binding) : ∀ {depth : Nat} (style : Datum.Style),
    b.toDatum.height ≤ depth → ofDatumTo? depth style b.toDatum = some (b.mapLiterals .finite) := by
  induction b using recData with
  | literal v =>
    intro depth style h
    obtain ⟨k, rfl, -⟩ := Datum.of_height_record_le h
    rw [ofDatumTo?, tagged?_toDatum]
    simp [toDatum, kind, v.ofDatum?_toDatum, mapLiterals]
  | constant _ | skip =>
    intro depth style h
    obtain ⟨k, rfl, -⟩ := Datum.of_height_record_le h
    rw [ofDatumTo?, tagged?_toDatum]
    simp [toDatum, kind, mapLiterals]
  | env _ next hnext | service _ next hnext =>
    intro depth style h
    obtain ⟨k, rfl, hfields⟩ := Datum.of_height_record_le h
    rw [fallbackField_eq, List.forall_mem_append, Datum.forall_optionalField] at hfields
    have hfallback := optional_fallback fun b hb => hnext b hb style.aside (hfields.2 b hb)
    rw [ofDatumTo?, tagged?_toDatum]
    simp [toDatum, kind, fallbackField_eq, hfallback, mapLiterals, mapNext_eq]
  | array es next hes hnext =>
    intro depth style h
    obtain ⟨k, rfl, hfields⟩ := Datum.of_height_record_le h
    rw [fallbackField_eq, entriesToDatum_eq, List.forall_mem_append, Datum.forall_optionalField]
      at hfields
    have hlist := hfields.1 _ (.tail _ (.head _))
    have hentries := listOf_keyed fun e he =>
      hes e he style.aside (Nat.le_of_lt (Nat.lt_of_lt_of_le (height_of_mem_entries he) hlist))
    have hfallback := optional_fallback fun b hb => hnext b hb style.aside (hfields.2 b hb)
    rw [ofDatumTo?, tagged?_toDatum]
    simp [toDatum, kind, fallbackField_eq, entriesToDatum_eq, hentries, hfallback, mapLiterals,
      mapNext_eq, mapEntries_eq]
  | closure s ps next hps hnext =>
    intro depth style h
    obtain ⟨k, rfl, hfields⟩ := Datum.of_height_record_le h
    rw [fallbackField_eq, paramsToDatum_eq, List.forall_mem_append, Datum.forall_optionalField]
      at hfields
    have hlist := hfields.1 _ (.tail _ (.tail _ (.head _)))
    have hparams := listOf_named (show "binding" ≠ "name" by decide) style.aside fun p hp =>
      hps p hp style.aside (Nat.le_of_lt (Nat.lt_of_lt_of_le (height_of_mem_named hp) hlist))
    have hfallback := optional_fallback fun b hb => hnext b hb style.aside (hfields.2 b hb)
    rw [ofDatumTo?, tagged?_toDatum]
    simp [toDatum, kind, fallbackField_eq, paramsToDatum_eq, hparams, hfallback, mapLiterals,
      mapNext_eq, mapParams_eq]

/-- A binding is read back from its record. -/
theorem ofDatumAs?_toDatum (style : Datum.Style) (b : Binding) :
    ofDatumAs? style b.toDatum = some (b.mapLiterals .finite) :=
  b.ofDatumTo?_toDatum style (Nat.le_refl _)

end Binding

end Wiring
