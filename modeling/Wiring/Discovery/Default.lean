import Wiring.Decimal.Nearest
import Wiring.Decimal.Reader
import Wiring.Descriptor.Parameter
import Wiring.Source.Syntax

/-!
# Defaults as expressions

A default is written as an expression. Literals, lists of them and an absent value stand for
themselves; parentheses, the wrapper of a present value and a call without arguments on a value do
not count. A path of several names, or one in capital letters, refers to a constant.
-/

namespace Wiring.Source

namespace Expr

mutual

/-- The literal that an expression writes. -/
def literal? : Expr → Option Literal
  | literal (.text s) => some (.str s)
  | literal (.character c) => some (.str (String.singleton c))
  | literal (.natural n) => if Decimal.isInt64 n then some (.int (Int64.ofNat n)) else none
  | literal (.decimal digits) => (Decimal.float? digits).map .float
  | literal .other => none
  | truth b => some (.bool b)
  | negated e =>
    match e.literal? with
    | some (.int n) => some (.int (-n))
    | some (.float x) => some (.float (-x))
    | _ => none
  | path p => if p.isWord "None" then some .null else none
  | array items => (literals? items).map .list
  | call (path p) [e] => if p.isWord "Some" then e.literal? else none
  | methodCall receiver [] => receiver.literal?
  | parenthesized e => e.literal?
  | _ => none

/-- The literals that some expressions write. -/
def literals? : List Expr → Option (List Literal)
  | [] => some []
  | e :: es =>
    match e.literal?, literals? es with
    | some v, some vs => some (v :: vs)
    | _, _ => none

end

/-- Whether a name is spelled like a constant. -/
def isConstantName (name : String) : Bool :=
  name != "None" && name.toList.all fun c => c.isUpper || c == '_'

/-- The constant that an expression refers to. The type may stand for its own name. -/
def constant? (owner : String) : Expr → Option String
  | path p =>
    match p.names with
    | [] => none
    | [name] => if isConstantName name then some name else none
    | names => some ("::".intercalate (names.map fun n => if n == "Self" then owner else n))
  | _ => none

/-- The default that an expression writes, in a type with the given name. -/
def default? (owner : String) (e : Expr) : Option DefaultValue :=
  match e.constant? owner with
  | some reference => some (.constant reference)
  | none => e.literal?.map .literal

end Expr

end Wiring.Source
