import Wiring.Descriptor.Annotation
import Wiring.Descriptor.Parameter

/-!
# Descriptors of classes

What is known of one type of the analysed project: its kind, its parents and capabilities, how it is
built, and its methods with their annotations. Descriptors are facts; compiling only reads them.
-/

namespace Wiring

/-- The kinds of types. Only concrete ones can be built. -/
inductive ClassKind where
  | concrete | abstract | interface | marker | throwable | anonymous
  deriving DecidableEq, Repr, Inhabited

namespace ClassKind

/-- All kinds. -/
def all : List ClassKind :=
  [.concrete, .abstract, .interface, .marker, .throwable, .anonymous]

/-- The name of a kind. -/
def name : ClassKind → String
  | concrete => "concrete"
  | abstract => "abstract"
  | interface => "interface"
  | marker => "annotation"
  | throwable => "throwable"
  | anonymous => "anonymous"

/-- The kind with this name. -/
def ofName? (s : String) : Option ClassKind :=
  all.find? (·.name == s)

/-- Whether objects of this kind can be built. -/
def isInstantiable (k : ClassKind) : Bool :=
  k = .concrete

instance : ToDatum ClassKind := ⟨fun k => .text k.name⟩

/-- The kind that a tree names. -/
def ofDatum? (d : Datum) : Option ClassKind :=
  d.caseName? .json >>= ofName?

end ClassKind

/-- A method of a class. -/
structure Method where
  name : String
  params : List Parameter := []
  isStatic : Bool := false
  annotations : List Annotation := []
  deriving BEq, Repr, Inhabited

namespace Method

/-- The method as a record. -/
def toDatum (m : Method) : Datum :=
  .record [("name", .text m.name), ("params", .list (m.params.map Parameter.toDatum)),
    ("is_static", .bool m.isStatic), ("annotations", .list (m.annotations.map Annotation.toDatum))]

/-- The method that a record stands for. -/
def ofDatum? (d : Datum) : Option Method := do
  match ← d.columns? ["name", "params", "is_static", "annotations"] with
  | [name, params, isStatic, annotations] =>
    return {
      name := ← Datum.required Datum.text? name
      params := ← Datum.defaulting [] (Datum.listOf Parameter.ofDatum?) params
      isStatic := ← Datum.defaulting false Datum.bool? isStatic
      annotations := ← Datum.defaulting [] (Datum.listOf Annotation.ofDatum?) annotations }
  | _ => none

instance : ToDatum Method := ⟨toDatum⟩

instance : FromDatum Method := ⟨ofDatum?⟩

end Method

/-- A type of the project. -/
structure ClassDescriptor where
  name : String
  kind : ClassKind
  /-- Parents, nearest first. -/
  parents : List String := []
  /-- Everything the class implements, in the order of declaration. -/
  capabilities : List String := []
  annotations : List Annotation := []
  /-- The parameters of the constructor. -/
  constructor : List Parameter := []
  methods : List Method := []
  /-- The file the descriptor was read from. -/
  source? : Option String := none
  deriving BEq, Repr, Inhabited

namespace ClassDescriptor

/-- The first method with this name. -/
def method? (c : ClassDescriptor) (name : String) : Option Method :=
  c.methods.find? (·.name == name)

/-- Whether the class has this capability or parent. -/
def implements (c : ClassDescriptor) (id : String) : Bool :=
  c.capabilities.contains id || c.parents.contains id

/-- What the first service annotation says about sharing. -/
def singletonHint? (c : ClassDescriptor) : Option Bool :=
  c.annotations.findSome? fun
    | .service singleton => some singleton
    | _ => none

/-- The path of the first route prefix. -/
def routePrefix? (c : ClassDescriptor) : Option String :=
  c.annotations.findSome? fun
    | .routePrefix path => some path
    | _ => none

/-- The priority of the first middleware annotation. -/
def middlewarePriority? (c : ClassDescriptor) : Option Int32 :=
  c.annotations.findSome? fun
    | .middleware priority => some priority
    | _ => none

/-- The descriptor as a record. -/
def toDatum (c : ClassDescriptor) : Datum :=
  .record <| [("name", .text c.name), ("kind", ToDatum.toDatum c.kind),
    ("parents", .list (c.parents.map .text)), ("capabilities", .list (c.capabilities.map .text)),
    ("annotations", .list (c.annotations.map Annotation.toDatum)),
    ("constructor", .list (c.constructor.map Parameter.toDatum)),
    ("methods", .list (c.methods.map Method.toDatum))] ++
    Datum.optionalField "source" .text c.source?

/-- The descriptor that a record stands for. -/
def ofDatum? (d : Datum) : Option ClassDescriptor := do
  match ← d.columns? ["name", "kind", "parents", "capabilities", "annotations", "constructor",
    "methods", "source"] with
  | [name, kind, parents, capabilities, annotations, constructor, methods, source?] =>
    return {
      name := ← Datum.required Datum.text? name
      kind := ← Datum.required ClassKind.ofDatum? kind
      parents := ← Datum.defaulting [] (Datum.listOf Datum.text?) parents
      capabilities := ← Datum.defaulting [] (Datum.listOf Datum.text?) capabilities
      annotations := ← Datum.defaulting [] (Datum.listOf Annotation.ofDatum?) annotations
      constructor := ← Datum.defaulting [] (Datum.listOf Parameter.ofDatum?) constructor
      methods := ← Datum.defaulting [] (Datum.listOf Method.ofDatum?) methods
      source? := ← Datum.optional Datum.text? source? }
  | _ => none

instance : ToDatum ClassDescriptor := ⟨toDatum⟩

instance : FromDatum ClassDescriptor := ⟨ofDatum?⟩

end ClassDescriptor

end Wiring
