import Wiring.Binding.Listing

/-!
# Values at run time

What constructors, factories and handlers get for their parameters: the values of literals, and also
instances of services and closures that wait to be called.
-/

namespace Wiring

/-- What the container hands out. Objects are told apart by their serial numbers. -/
inductive Instance where
  /-- The container itself. -/
  | container
  /-- The configuration. -/
  | config
  /-- The object that was constructed as the `serial`th one, of a type and with a label. -/
  | object (type label : String) (serial : Nat)
  deriving DecidableEq, Repr, Inhabited

/-- The types an instance can be asked for. -/
inductive InstanceType where
  | container
  | config
  | object (name : String)
  deriving DecidableEq, Repr, Inhabited

/-- The value of a parameter. -/
inductive Value where
  | null
  | bool (b : Bool)
  | int (n : Int64)
  | float (x : Float)
  | str (s : String)
  | list (items : List Value)
  | map (entries : List (ArrayKey × Value))
  | service (i : Instance)
  /-- A registered closure with the arguments it is called with. -/
  | closure (source : String) (args : List (String × Value))
  deriving Inhabited, BEq, Repr

namespace Instance

/-- The type of an instance. -/
def type : Instance → InstanceType
  | container => .container
  | config => .config
  | object type _ _ => .object type

end Instance

/-- The name of a type in messages. -/
def InstanceType.name : InstanceType → String
  | container => "container"
  | config => "configuration"
  | object name => name

namespace Value

/-- The name of the case of a value. -/
def kind : Value → String
  | null => "null"
  | bool _ => "bool"
  | int _ => "int"
  | float _ => "float"
  | str _ => "string"
  | list _ => "list"
  | map _ => "map"
  | service _ => "service"
  | closure _ _ => "closure"

/-- Whether the value is no value. -/
def isNull : Value → Bool
  | null => true
  | _ => false

mutual

/-- The value of a literal. -/
def ofLiteral : Literal → Value
  | .null => null
  | .bool b => bool b
  | .int n => int n
  | .float x => float x
  | .str s => str s
  | .list items => list (ofLiterals items)

/-- The values of some literals. -/
def ofLiterals : List Literal → List Value
  | [] => []
  | l :: rest => ofLiteral l :: ofLiterals rest

end

mutual

/-- A value with the names of its cases. Instances and closures do not show what is in them. -/
def inspect : Value → String
  | null => "Null"
  | bool b => "Bool(" ++ toString b ++ ")"
  | int n => "Int(" ++ toString n.toInt ++ ")"
  | float x => "Float(" ++ Decimal.plain.write x ++ ")"
  | str s => "Str(" ++ Text.quoted s ++ ")"
  | list items => "List([" ++ inspectItems items ++ "])"
  | map entries => "Map([" ++ inspectEntries entries ++ "])"
  | service _ => "Service(..)"
  | closure _ _ => "Closure(..)"

/-- The items of a list, with commas between them. -/
def inspectItems : List Value → String
  | [] => ""
  | [v] => v.inspect
  | v :: rest => v.inspect ++ ", " ++ inspectItems rest

/-- The entries of a map, with commas between them. -/
def inspectEntries : List (ArrayKey × Value) → String
  | [] => ""
  | [(key, v)] => "(" ++ key.inspect ++ ", " ++ v.inspect ++ ")"
  | (key, v) :: rest => "(" ++ key.inspect ++ ", " ++ v.inspect ++ "), " ++ inspectEntries rest

end

end Value

end Wiring
