import Wiring.Decimal.Nearest
import Wiring.Serve.Error
import Wiring.Serve.Value

/-!
# Arguments

The arguments of a call, found by name. Each reader asks for one kind of value. A parameter that was
left out when the project was compiled has no argument; the optional readers give no value for it.
-/

namespace Wiring

/-- The arguments of a call, in order. Of two with one name the first counts. -/
structure Args where
  values : List (String × Value) := []
  deriving BEq, Repr, Inhabited

namespace Args

/-- The arguments with one more at the end. -/
def insert (args : Args) (name : String) (v : Value) : Args :=
  ⟨args.values ++ [(name, v)]⟩

/-- The value of an argument. -/
def get? (args : Args) (name : String) : Option Value :=
  args.values.lookup name

/-- Whether there is an argument with this name. -/
def contains (args : Args) (name : String) : Bool :=
  (args.get? name).isSome

/-- The number of arguments. -/
def size (args : Args) : Nat :=
  args.values.length

/-- Whether there are no arguments. -/
def isEmpty (args : Args) : Bool :=
  args.values.isEmpty

/-- The names of the arguments, in order. -/
def names (args : Args) : List String :=
  args.values.map (·.1)

/-- The value of an argument that has to be there. -/
def require (args : Args) (name : String) : Except ServeError Value :=
  match args.get? name with
  | some v => .ok v
  | none => .error (.missingArgument name)

/-- A whole number. -/
def int (args : Args) (name : String) : Except ServeError Int64 := do
  match ← args.require name with
  | .int n => .ok n
  | _ => .error (.argumentType name "int")

/-- A number; a whole number is converted. -/
def float (args : Args) (name : String) : Except ServeError Float := do
  match ← args.require name with
  | .float x => .ok x
  | .int n => .ok (Decimal.signed (n < 0) (Decimal.nearest n.toInt.natAbs 0))
  | _ => .error (.argumentType name "float")

/-- A truth value. -/
def bool (args : Args) (name : String) : Except ServeError Bool := do
  match ← args.require name with
  | .bool b => .ok b
  | _ => .error (.argumentType name "bool")

/-- A text. -/
def str (args : Args) (name : String) : Except ServeError String := do
  match ← args.require name with
  | .str s => .ok s
  | _ => .error (.argumentType name "string")

/-- A text, if there is one. -/
def optionalStr (args : Args) (name : String) : Except ServeError (Option String) :=
  match args.get? name with
  | none | some .null => .ok none
  | some (.str s) => .ok (some s)
  | some _ => .error (.argumentType name "string")

/-- The items of a list. -/
def list (args : Args) (name : String) : Except ServeError (List Value) := do
  match ← args.require name with
  | .list items => .ok items
  | _ => .error (.argumentType name "list")

/-- A closure with the arguments it is called with. -/
def closure (args : Args) (name : String) : Except ServeError (String × Args) := do
  match ← args.require name with
  | .closure source bound => .ok (source, ⟨bound⟩)
  | _ => .error (.argumentType name "closure")

/-- An instance of a type, if there is one. -/
def optionalService (args : Args) (type : InstanceType) (name : String) :
    Except ServeError (Option Instance) :=
  match args.get? name with
  | none | some .null => .ok none
  | some (.service i) =>
    if i.type = type then .ok (some i) else .error (.argumentType name type.name)
  | some _ => .error (.argumentType name type.name)

/-- An instance of a type. -/
def service (args : Args) (type : InstanceType) (name : String) : Except ServeError Instance := do
  match ← args.optionalService type name with
  | some i => .ok i
  | none => .error (.missingArgument name)

end Args

end Wiring
