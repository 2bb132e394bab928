import Wiring.Datum.Decode
import Wiring.Decimal.Nearest
import Wiring.Decimal.Format
import Wiring.Text.Quoted

/-!
# Literal values

The values that defaults and declarations can spell out. A literal is written as a bare data tree
and recognised by its shape, so a whole number beyond 64 bits is read as a double.
-/

namespace Wiring

/-- A value as it appears in a default or in a declaration. -/
inductive Literal where
  | null
  | bool (b : Bool)
  | int (n : Int64)
  | float (x : Float)
  | str (s : String)
  | list (items : List Literal)
  deriving Inhabited, BEq, Repr

namespace Literal

mutual

/-- A literal as messages and listings show it. -/
def text : Literal → String
  | null => "null"
  | bool b => if b then "true" else "false"
  | int n => toString n.toInt
  | float x => Decimal.plain.write x
  | str s => Text.quoted s
  | list items => "[" ++ textOfItems items ++ "]"

/-- The items of a list, with commas between them. -/
def textOfItems : List Literal → String
  | [] => ""
  | [v] => v.text
  | v :: rest => v.text ++ ", " ++ textOfItems rest

end

mutual

/-- A literal as a data tree. A double that is no number has no such form and becomes `null`. -/
def toDatum : Literal → Datum
  | null => .null
  | bool b => .bool b
  | int n => .int n.toInt
  | float x => if x.isNaN || x.isInf then .null else .float x
  | str s => .text s
  | list items => .list (itemsToDatum items)

/-- The items of a list as data trees. -/
def itemsToDatum : List Literal → List Datum
  | [] => []
  | v :: rest => v.toDatum :: itemsToDatum rest

end

mutual

/-- The literal a data tree stands for. Records stand for none. -/
def ofDatum? : Datum → Option Literal
  | .null => some null
  | .bool b => some (bool b)
  | .int n =>
    if Decimal.isInt64 n then some (int (Int64.ofInt n))
    else some (float (Decimal.signed (n < 0) (Decimal.nearest n.natAbs 0)))
  | .float x => some (float x)
  | .text s => some (str s)
  | .list items => (itemsOfDatum? items).map list
  | .record _ | .unreadable => none

/-- The literals that some data trees stand for. -/
def itemsOfDatum? : List Datum → Option (List Literal)
  | [] => some []
  | d :: rest => do
    let v ← ofDatum? d
    let vs ← itemsOfDatum? rest
    return v :: vs

end

instance : ToDatum Literal := ⟨toDatum⟩

instance : FromDatum Literal := ⟨ofDatum?⟩

/-- A short whole number as a literal. -/
def ofNat (n : Nat) : Literal :=
  int (Int64.ofNat n)

end Literal

end Wiring
