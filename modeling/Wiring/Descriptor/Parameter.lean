import Wiring.Descriptor.Literal

/-!
# Parameters of constructors and methods

A parameter has a name and the kind of its type. It may be nullable, have a default and carry hints
that say how it is wired.
-/

namespace Wiring

/-- The kinds a captured path segment can be converted to. -/
inductive Primitive where
  | string | int | float | bool | array
  deriving DecidableEq, Repr, Inhabited

namespace Primitive

/-- All kinds. -/
def all : List Primitive :=
  [.string, .int, .float, .bool, .array]

/-- The name of a kind. -/
def name : Primitive → String
  | string => "string"
  | int => "int"
  | float => "float"
  | bool => "bool"
  | array => "array"

/-- The kind with this name. -/
def ofName? (s : String) : Option Primitive :=
  all.find? (·.name == s)

instance : ToDatum Primitive := ⟨fun p => .text p.name⟩

/-- The kind that a tree names. -/
def ofDatum? (s : Datum.Style) (d : Datum) : Option Primitive :=
  d.caseName? s >>= ofName?

end Primitive

/-- The declared type of a parameter, as far as wiring goes by it. -/
inductive ParamType where
  /-- Nothing usable is known. -/
  | untyped
  | primitive (kind : Primitive)
  /-- A class or capability. -/
  | named (id : String)
  deriving DecidableEq, Repr, Inhabited

namespace ParamType

/-- The identifier that the type refers to. -/
def identifier? : ParamType → Option String
  | named id => some id
  | _ => none

/-- The primitive kind of the type. -/
def primitive? : ParamType → Option Primitive
  | primitive kind => some kind
  | _ => none

/-- The type as a record of its kind and its name. -/
def toDatum : ParamType → Datum
  | untyped => .record [("kind", .text "untyped")]
  | primitive p => .record [("kind", .text "primitive"), ("name", ToDatum.toDatum p)]
  | named id => .record [("kind", .text "named"), ("name", .text id)]

/-- The type that a record of kind and name stands for. -/
def ofDatum? (d : Datum) : Option ParamType := do
  match ← d.cased? .json "kind" "name" with
  | ("untyped", none) | ("untyped", some .null) => return untyped
  | ("primitive", name) => return primitive (← Datum.required (Primitive.ofDatum? .json) name)
  | ("named", name) => return named (← Datum.required Datum.text? name)
  | _ => none

instance : ToDatum ParamType := ⟨toDatum⟩

instance : FromDatum ParamType := ⟨ofDatum?⟩

end ParamType

/-- The default value of a parameter. -/
inductive DefaultValue where
  | literal (value : Literal)
  /-- A named constant. -/
  | constant (reference : String)
  deriving BEq, Repr, Inhabited

namespace DefaultValue

/-- The default as a record of its type and its value. -/
def toDatum : DefaultValue → Datum
  | literal v => .record [("type", .text "literal"), ("value", v.toDatum)]
  | constant r => .record [("type", .text "constant"), ("value", .text r)]

/-- The default that a record of type and value stands for. -/
def ofDatum? (s : Datum.Style) (d : Datum) : Option DefaultValue := do
  match ← d.cased? s "type" "value" with
  | ("literal", value) => return literal (← Datum.required Literal.ofDatum? value)
  | ("constant", value) => return constant (← Datum.required Datum.text? value)
  | _ => none

instance : ToDatum DefaultValue := ⟨toDatum⟩

end DefaultValue

/-- An explicit wish on how one parameter is wired. -/
inductive Hint where
  /-- Inject the service with this identifier. -/
  | inject (id : String)
  /-- Read this environment variable when the object is built. -/
  | env (key : String)
  deriving DecidableEq, Repr, Inhabited

namespace Hint

/-- The hint as a record of its kind and its value. -/
def toDatum : Hint → Datum
  | inject id => .record [("hint", .text "inject"), ("value", .text id)]
  | env key => .record [("hint", .text "env"), ("value", .text key)]

/-- The hint that a record of kind and value stands for. -/
def ofDatum? (d : Datum) : Option Hint := do
  match ← d.cased? .json "hint" "value" with
  | ("inject", value) => return inject (← Datum.required Datum.text? value)
  | ("env", value) => return env (← Datum.required Datum.text? value)
  | _ => none

instance : ToDatum Hint := ⟨toDatum⟩

instance : FromDatum Hint := ⟨ofDatum?⟩

end Hint

/-- A parameter of a constructor, a factory or a method. -/
structure Parameter where
  name : String
  type : ParamType
  nullable : Bool := false
  default? : Option DefaultValue := none
  hints : List Hint := []
  deriving BEq, Repr, Inhabited

namespace Parameter

/-- The identifier of the first injection hint. -/
def injectHint? (p : Parameter) : Option String :=
  p.hints.findSome? fun
    | .inject id => some id
    | .env _ => none

/-- The variable of the first environment hint. -/
def envHint? (p : Parameter) : Option String :=
  p.hints.findSome? fun
    | .env key => some key
    | .inject _ => none

/-- The parameter as a record. -/
def toDatum (p : Parameter) : Datum :=
  .record <| [("name", .text p.name), ("ty", p.type.toDatum), ("nullable", .bool p.nullable)] ++
    Datum.optionalField "default" DefaultValue.toDatum p.default? ++
    Datum.listField "hints" Hint.toDatum p.hints

/-- The parameter that a record stands for. -/
def ofDatum? (d : Datum) : Option Parameter := do
  match ← d.columns? ["name", "ty", "nullable", "default", "hints"] with
  | [name, type, nullable, default?, hints] =>
    return {
      name := ← Datum.required Datum.text? name
      type := ← Datum.required ParamType.ofDatum? type
      nullable := ← Datum.defaulting false Datum.bool? nullable
      default? := ← Datum.optional (DefaultValue.ofDatum? .json) default?
      hints := ← Datum.defaulting [] (Datum.listOf Hint.ofDatum?) hints }
  | _ => none

instance : ToDatum Parameter := ⟨toDatum⟩

instance : FromDatum Parameter := ⟨ofDatum?⟩

end Parameter

end Wiring
