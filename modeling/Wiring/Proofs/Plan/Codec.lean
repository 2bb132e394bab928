import Wiring.Plan.Listener
import Wiring.Plan.Middleware
import Wiring.Proofs.Binding.Codec
import Wiring.Proofs.Plan.References

/-!
# Container plans, middleware plans and listener tables are read back

An argument is read back from its record with `null` in place of each double that is none
(`Argument.ofDatumTo?_toDatum`), and so is a container plan (`ContainerPlan.ofDatum?_toDatum`). The
plans of middleware and of listeners hold no literals and are read back as they are.
-/

namespace Wiring

/-! ## Arguments -/

namespace Argument

mutual

/-- The argument with its literals changed. -/
def mapLiterals (f : Literal → Literal) : Argument → Argument
  | literal v => literal (f v)
  | constant r => constant r
  | env key next => env key (mapNext f next)
  | service id => service id
  | array es => array (mapEntries f es)
  | closure s args => closure s (mapArgs f args)

/-- The fallback with its literals changed. -/
def mapNext (f : Literal → Literal) : Option Argument → Option Argument
  | none => none
  | some a => some (a.mapLiterals f)

/-- The entries of an array with their literals changed. -/
def mapEntries (f : Literal → Literal) :
    List (Option ArrayKey × Argument) → List (Option ArrayKey × Argument)
  | [] => []
  | (key, a) :: rest => (key, a.mapLiterals f) :: mapEntries f rest

/-- Named arguments with their literals changed. -/
def mapArgs (f : Literal → Literal) : List (String × Argument) → List (String × Argument)
  | [] => []
  | (name, a) :: rest => (name, a.mapLiterals f) :: mapArgs f rest

end

/-- The word for the kind of an argument. -/
def kind : Argument → String
  | literal _ => "literal"
  | constant _ => "constant"
  | env _ _ => "env"
  | service _ => "service"
  | array _ => "array"
  | closure _ _ => "closure"

section
variable {f : Literal → Literal}

/-- Changing the literals of a fallback, if there is one. -/
theorem mapNext_eq (next : Option Argument) : mapNext f next = next.map (mapLiterals f) := by
  cases next <;> simp [mapNext]

/-- Changing the literals of entries one by one. -/
theorem mapEntries_eq (es : List (Option ArrayKey × Argument)) :
    mapEntries f es = es.map fun e => (e.1, e.2.mapLiterals f) := by
  induction es with
  | nil => simp [mapEntries]
  | cons e rest ih => simp [mapEntries, ih]

/-- Changing the literals of arguments one by one. -/
theorem mapArgs_eq (args : List (String × Argument)) :
    mapArgs f args = args.map fun p => (p.1, p.2.mapLiterals f) := by
  induction args with
  | nil => simp [mapArgs]
  | cons p rest ih => simp [mapArgs, ih]

/-- A fallback is written as a field that may be left out. -/
theorem fallbackField_eq (next : Option Argument) :
    fallbackField next = Datum.optionalField "fallback" toDatum next := by
  cases next <;> simp [fallbackField, Datum.optionalField]

/-- Entries are written one by one. -/
theorem entriesToDatum_eq (es : List (Option ArrayKey × Argument)) :
    entriesToDatum es = es.map fun e => Binding.entryDatum e.1 e.2.toDatum := by
  induction es with
  | nil => simp [entriesToDatum]
  | cons e rest ih => simp [entriesToDatum, ih]

/-- Arguments are written one by one. -/
theorem argsToDatum_eq (args : List (String × Argument)) : argsToDatum args =
    args.map fun p => Binding.namedDatum "value" p.1 p.2.toDatum := by
  induction args with
  | nil => simp [argsToDatum]
  | cons p rest ih => simp [argsToDatum, Binding.namedDatum, ih]

end

/-- An argument is written with values only. -/
@[simp] theorem isReadable_toDatum (a : Argument) : a.toDatum.isReadable = true := by
  induction a using recData with
  | literal v | constant r | service id => exact Datum.isReadable_record.2 (by simp)
  | env key next hnext =>
    refine Datum.isReadable_record.2 ?_
    rw [fallbackField_eq, List.forall_mem_append, Datum.forall_optionalField]
    exact ⟨by simp, hnext⟩
  | array es hes =>
    have hentries : (Datum.list (entriesToDatum es)).isReadable = true := by
      rw [entriesToDatum_eq]
      refine Datum.isReadable_list.2 (List.forall_mem_map.2 fun e he => ?_)
      rw [Binding.isReadable_entryDatum, hes e he]
    exact Datum.isReadable_record.2 (by simp [hentries])
  | closure s args hargs =>
    have hlist : (Datum.list (argsToDatum args)).isReadable = true := by
      rw [argsToDatum_eq]
      refine Datum.isReadable_list.2 (List.forall_mem_map.2 fun p hp => ?_)
      exact Datum.isReadable_record.2 (by simp [hargs p hp])
    exact Datum.isReadable_record.2 (by simp [hlist])

/-- An argument is never written as null. -/
theorem toDatum_ne_null (a : Argument) : a.toDatum ≠ .null := by
  cases a <;> simp [toDatum]

/-- What names the case of an argument is found in its record. -/
theorem tagged?_toDatum (style : Datum.Style) (a : Argument) :
    a.toDatum.tagged? style "kind" cases = some a.kind := by
  have hreadable := a.isReadable_toDatum
  cases a <;>
    simp [toDatum, fallbackField_eq, kind, Datum.tagged?, Datum.tagName?] at hreadable ⊢ <;>
    exact hreadable

/-- An argument is read back from its record if the reader may go down as deep as that is high. -/
theorem ofDatumTo?_toDatum (a : Argument) : ∀ {depth : Nat} (style : Datum.Style),
    a.toDatum.height ≤ depth → ofDatumTo? depth style a.toDatum = some (a.mapLiterals .finite) := by
  induction a using recData with
  | literal v =>
    intro depth style h
    obtain ⟨k, rfl, -⟩ := Datum.of_height_record_le h
    rw [ofDatumTo?, tagged?_toDatum]
    simp [toDatum, kind, v.ofDatum?_toDatum, mapLiterals]
  | constant _ | service _ =>
    intro depth style h
    obtain ⟨k, rfl, -⟩ := Datum.of_height_record_le h
    rw [ofDatumTo?, tagged?_toDatum]
    simp [toDatum, kind, mapLiterals]
  | env key next hnext =>
    intro depth style h
    obtain ⟨k, rfl, hfields⟩ := Datum.of_height_record_le h
    rw [fallbackField_eq, List.forall_mem_append, Datum.forall_optionalField] at hfields
    have hfallback : Datum.optional (ofDatumTo? k style.aside) (next.map toDatum) =
        some (next.map (mapLiterals .finite)) :=
      Datum.optional_map fun a ha => ⟨a.toDatum_ne_null, hnext a ha style.aside (hfields.2 a ha)⟩
    rw [ofDatumTo?, tagged?_toDatum]
    simp [toDatum, kind, fallbackField_eq, hfallback, mapLiterals, mapNext_eq]
  | array es hes =>
    intro depth style h
    obtain ⟨k, rfl, hfields⟩ := Datum.of_height_record_le h
    rw [entriesToDatum_eq] at hfields
    have hlist := hfields _ (.tail _ (.head _))
    have hentries := Binding.listOf_keyed fun e he => hes e he style.aside
      (Nat.le_of_lt (Nat.lt_of_lt_of_le (Binding.height_of_mem_entries he) hlist))
    rw [ofDatumTo?, tagged?_toDatum]
    simp [toDatum, kind, entriesToDatum_eq, hentries, mapLiterals, mapEntries_eq]
  | closure s args hargs =>
    intro depth style h
    obtain ⟨k, rfl, hfields⟩ := Datum.of_height_record_le h
    rw [argsToDatum_eq] at hfields
    have hlist := hfields _ (.tail _ (.tail _ (.head _)))
    have hnamed := Binding.listOf_named (show "value" ≠ "name" by decide) .json fun p hp =>
      hargs p hp style.aside
        (Nat.le_of_lt (Nat.lt_of_lt_of_le (Binding.height_of_mem_named hp) hlist))
    rw [ofDatumTo?, tagged?_toDatum]
    simp [toDatum, kind, argsToDatum_eq, hnamed, mapLiterals, mapArgs_eq]

/-- An argument is read back from its record. -/
theorem ofDatum?_toDatum (a : Argument) : ofDatum? a.toDatum = some (a.mapLiterals .finite) :=
  a.ofDatumTo?_toDatum .json (Nat.le_refl _)

end Argument

/-! ## Container plans -/

@[simp] theorem Origin.ofDatum?_toDatum (o : Origin) : ofDatum? o.toDatum = some o := by
  cases o with
  | discovered | manual => rfl
  | builtin which => cases which <;> rfl

@[simp] theorem Factory.ofDatum?_toDatum (f : Factory) : ofDatum? f.toDatum = some f := by
  simp [toDatum, ofDatum?]

namespace Construction

/-- The construction with the literals of its arguments changed. -/
def mapLiterals (f : Literal → Literal) (c : Construction) : Construction :=
  { c with args := Argument.mapArgs f c.args }

/-- A construction is read back from its record. -/
theorem ofDatum?_toDatum (c : Construction) :
    ofDatum? c.toDatum = some (c.mapLiterals .finite) := by
  have hfactory := Datum.optional_map_self (fun f => by simp [Factory.toDatum])
    Factory.ofDatum?_toDatum c.factory?
  have hargs := Binding.listOf_named (show "value" ≠ "name" by decide) .json
    fun p (_ : p ∈ c.args) => p.2.ofDatum?_toDatum
  simp [toDatum, ofDatum?, hfactory, Argument.argsToDatum_eq, hargs, mapLiterals,
    Argument.mapArgs_eq]

end Construction

namespace ContainerPlan

/-- The plan with the literals of all arguments changed. -/
def mapLiterals (f : Literal → Literal) (p : ContainerPlan) : ContainerPlan :=
  { p with services := p.services.map (·.mapLiterals f) }

/-- A container plan is read back from its record. -/
theorem ofDatum?_toDatum (p : ContainerPlan) :
    ofDatum? p.toDatum = some (p.mapLiterals .finite) := by
  have hservices := Datum.listOf_map fun c (_ : c ∈ p.services) => c.ofDatum?_toDatum
  have halias (a : String × String) :
      Datum.pairOf Datum.text? Datum.text? (.list [.text a.1, .text a.2]) = some a := rfl
  have haliases := Datum.listOf_map_self halias p.aliases
  simp [toDatum, ofDatum?, hservices, haliases, mapLiterals]

end ContainerPlan

/-! ## Middleware and listeners -/

/-- A priority is read back from its number. -/
theorem Annotation.priority?_int (n : Int32) : priority? (.int n.toInt) = some n := by
  have hlow := n.le_toInt
  have hhigh := n.toInt_lt
  have hbounds : -0x80000000 ≤ n.toInt ∧ n.toInt ≤ 0x7FFFFFFF := by omega
  rw [priority?, Datum.intBetween?, if_pos hbounds, Option.map_some, Int32.ofInt_toInt]

/-- A middleware is read back from what it is written as. -/
theorem MiddlewareEntry.ofDatum?_toDatum (e : MiddlewareEntry) : ofDatum? e.toDatum = some e := by
  simp [toDatum, ofDatum?, Annotation.priority?_int]

/-- A plan of middleware is read back from what it is written as. -/
theorem MiddlewarePlan.ofDatum?_toDatum (p : MiddlewarePlan) : ofDatum? p.toDatum = some p := by
  have hentries := Datum.listOf_map_self MiddlewareEntry.ofDatum?_toDatum p.entries
  simp [toDatum, ofDatum?, hentries]

/-- A listener is read back from what it is written as. -/
theorem ListenerEntry.ofDatum?_toDatum (e : ListenerEntry) : ofDatum? e.toDatum = some e := by
  simp [toDatum, ofDatum?]

/-- A group of listeners is read back from what it is written as. -/
theorem ListenerGroup.ofDatum?_toDatum (g : ListenerGroup) : ofDatum? g.toDatum = some g := by
  have hlisteners := Datum.listOf_map_self ListenerEntry.ofDatum?_toDatum g.listeners
  simp [toDatum, ofDatum?, hlisteners]

/-- A table of listeners is read back from what it is written as. -/
theorem ListenerTable.ofDatum?_toDatum (t : ListenerTable) : ofDatum? t.toDatum = some t := by
  have hgroups := Datum.listOf_map_self ListenerGroup.ofDatum?_toDatum t.groups
  simp [toDatum, ofDatum?, hgroups]

end Wiring
