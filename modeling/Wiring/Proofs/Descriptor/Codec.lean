import Wiring.Descriptor.Parameter
import Wiring.Http.Verb
import Wiring.Proofs.Datum.Decode
import Wiring.Proofs.Decimal.Reader

/-!
# Literals, kinds, verbs and defaults are read back

A literal is a bare tree that is recognised by its shape. The shapes do not overlap, since a whole
number of 64 bits is never taken for a double, so a literal is read back as it was: with `null` in
place of each double that is none (`Literal.finite`).
-/

namespace Wiring

namespace Literal

mutual

/-- The literal with `null` in place of each double that is infinite or no number. -/
def finite : Literal → Literal
  | float x => if x.isNaN || x.isInf then null else float x
  | list items => list (finiteItems items)
  | null => null
  | bool b => bool b
  | int n => int n
  | str s => str s

/-- `finite` over the items of a list. -/
def finiteItems : List Literal → List Literal
  | [] => []
  | v :: rest => v.finite :: finiteItems rest

end

/-- The value of a number of 64 bits fits into 64 bits. -/
theorem isInt64_toInt (n : Int64) : Decimal.isInt64 n.toInt = true :=
  Decimal.fits_iff.2 ⟨n.le_toInt, n.toInt_lt⟩

mutual

/-- A literal is read back from its tree. -/
theorem ofDatum?_toDatum : ∀ v : Literal, ofDatum? v.toDatum = some v.finite
  | null | bool _ | str _ => rfl
  | int n => by rw [toDatum, ofDatum?, if_pos (isInt64_toInt n), Int64.ofInt_toInt, finite]
  | float x => by
    rw [toDatum, finite]
    split <;> rfl
  | list items => by
    rw [toDatum, ofDatum?, itemsOfDatum?_itemsToDatum items, Option.map_some, finite]

/-- Literals are read back as those of finite doubles. -/
theorem itemsOfDatum?_itemsToDatum : ∀ items : List Literal,
    itemsOfDatum? (itemsToDatum items) = some (finiteItems items)
  | [] => rfl
  | v :: rest => by
    rw [itemsToDatum, itemsOfDatum?, ofDatum?_toDatum v, itemsOfDatum?_itemsToDatum rest]
    rfl

end

mutual

@[simp] theorem isReadable_toDatum : ∀ v : Literal, v.toDatum.isReadable = true
  | null | bool _ | int _ | str _ => rfl
  | float x => by
    rw [toDatum]
    split <;> rfl
  | list items => by rw [toDatum, Datum.isReadable, areReadable_itemsToDatum items]

/-- What literals are written as can be read. -/
theorem areReadable_itemsToDatum : ∀ items : List Literal,
    Datum.areReadable (itemsToDatum items) = true
  | [] => rfl
  | v :: rest => by
    rw [itemsToDatum, Datum.areReadable, isReadable_toDatum v, areReadable_itemsToDatum rest]
    rfl

end

end Literal

namespace Primitive

@[simp] theorem ofDatum?_toDatum (style : Datum.Style) (k : Primitive) :
    ofDatum? style (ToDatum.toDatum k) = some k := by
  cases k <;> rfl

end Primitive

namespace Verb

@[simp] theorem ofDatum?_toDatum (style : Datum.Style) (v : Verb) :
    ofDatum? style (ToDatum.toDatum v) = some v :=
  ofToken?_name v

end Verb

namespace DefaultValue

/-- The default with its literal changed. -/
def mapLiteral (f : Literal → Literal) : DefaultValue → DefaultValue
  | literal v => literal (f v)
  | constant r => constant r

/-- A default is read back from its record. -/
theorem ofDatum?_toDatum (style : Datum.Style) (d : DefaultValue) :
    ofDatum? style d.toDatum = some (d.mapLiteral .finite) := by
  cases d with
  | literal v => simp [toDatum, ofDatum?, Datum.cased?, v.ofDatum?_toDatum, mapLiteral]
  | constant r => simp [toDatum, ofDatum?, Datum.cased?, mapLiteral]

@[simp] theorem isReadable_toDatum (d : DefaultValue) : d.toDatum.isReadable = true := by
  cases d <;> simp [toDatum, Datum.isReadable, Datum.fieldsAreReadable]

end DefaultValue

end Wiring
