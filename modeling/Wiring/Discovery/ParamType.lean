import Wiring.Descriptor.Parameter
import Wiring.Source.Syntax

/-!
# What a type says about wiring

References, parentheses, groups and wrappers that only change who owns a value are passed over. An
optional type is its content, and may be absent. What is left is a primitive kind, the identifier of
a class or a capability, or nothing that can be used.
-/

namespace Wiring.Source

/-- Wrappers that only change who owns a value. -/
def transparentWrappers : List String :=
  ["Arc", "Rc", "Box", "Cow"]

/-- The wrapper of values that may be absent. -/
def optionalWrapper : String := "Option"

/-- Names of whole numbers. -/
def integerNames : List String :=
  ["i8", "i16", "i32", "i64", "i128", "isize", "u8", "u16", "u32", "u64", "u128", "usize"]

/-- Names of collections. -/
def collectionNames : List String :=
  ["Vec", "VecDeque", "HashMap", "BTreeMap", "HashSet", "BTreeSet"]

/-- What a name that is no wrapper stands for. -/
def namedType (name : String) : ParamType :=
  if name == "String" || name == "str" then .primitive .string
  else if integerNames.contains name then .primitive .int
  else if name == "f32" || name == "f64" then .primitive .float
  else if name == "bool" then .primitive .bool
  else if collectionNames.contains name then .primitive .array
  else .named name

/-- The last name of the trait that a bound gives. -/
def Bound.traitName? : Bound → Option String
  | trait names => names.getLast?
  | _ => none

/-- The type that wiring goes by, and whether a value may be absent. -/
def Ty.paramType : Ty → ParamType × Bool
  | reference t | parenthesized t | grouped t => t.paramType
  | traitObject _ bounds =>
    match bounds.findSome? Bound.traitName? with
    | some name => (.named name, false)
    | none => (.untyped, false)
  | sequence => (.primitive .array, false)
  | path _ names [] =>
    match names.getLast? with
    | none => (.untyped, false)
    | some name =>
      if name == optionalWrapper then (.untyped, true)
      else if transparentWrappers.contains name then (.untyped, false)
      else (namedType name, false)
  | path _ names (t :: _) =>
    match names.getLast? with
    | none => (.untyped, false)
    | some name =>
      if name == optionalWrapper then (t.paramType.1, true)
      else if transparentWrappers.contains name then t.paramType
      else (namedType name, false)
  | other => (.untyped, false)

end Wiring.Source
