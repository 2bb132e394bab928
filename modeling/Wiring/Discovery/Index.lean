import Wiring.Discovery.Attribute
import Wiring.Disk.Path
import Wiring.Source.Read

/-!
# An index of declarations

The types and traits of a project in the order in which they are declared, and for each type what
its implementations add up to. The first declaration of a name counts, while implementations of a
type accumulate wherever they stand. A trait brings the traits that it extends: starting from the
traits that a type names, each trait is listed once, before the traits that it brings, and the named
ones before all others.
-/

namespace Wiring.Discovery

/-! ## Traits -/

/-- What each trait extends. -/
structure Hierarchy where
  extensions : List (String × List String) := []

namespace Hierarchy

/-- What a trait extends; of one that is not known nothing. -/
def extended (h : Hierarchy) (name : String) : List String :=
  (h.extensions.lookup name).getD []

/-- How many extensions are declared. -/
def size (h : Hierarchy) : Nat :=
  h.extensions.foldl (fun n e => n + e.2.length) 0

/-- The traits in a queue and all they bring, without those seen before, in at most so many steps.
-/
def reached (h : Hierarchy) : Nat → (seen queue : List String) → List String
  | 0, _, _ => []
  | _ + 1, _, [] => []
  | n + 1, seen, name :: queue =>
    if seen.contains name then h.reached n seen queue
    else name :: h.reached n (name :: seen) (queue ++ h.extended name)

/-- The given traits and all they bring. Each declared extension enters the queue once at most, so
the number of steps is enough. -/
def closure (h : Hierarchy) (names : List String) : List String :=
  h.reached (names.length + h.size + 1) [] names

end Hierarchy

/-! ## Declarations -/

open Source

/-- What is kept of a declared name. -/
inductive Declared where
  | trait (supertraits : List String)
  | struct (isGeneric isThrowable : Bool) (annotations : List Annotation)
  deriving Repr

/-- A declared name and the file it is declared in. -/
structure Declaration where
  name : String
  declared : Declared
  file : Disk.Path
  deriving Repr

/-- What the implementations of a type add up to. -/
structure Implementation where
  traits : List String := []
  constructor? : Option (List Parameter) := none
  /-- Whether the constructor was marked as one. -/
  isMarked : Bool := false
  methods : List Method := []
  deriving Repr

namespace Implementation

/-- Whether a function gives a value of the type with the given name. -/
def returnsOwner (owner : String) (s : Signature) : Bool :=
  match s.output? with
  | some type => type.name?.any fun name => name == "Self" || name == owner
  | none => false

/-- The implementation with one more function. An associated function that gives the type is its
constructor if it is marked, or if it is called `new` and none was marked so far. -/
def addFunction (owner : String) (i : Implementation) (f : Source.Function) :
    Except Flaw Implementation := do
  let s := f.signature
  let isStatic := !(s.params.head?.any Param.isReceiver)
  let marked := f.attributes.any fun a => a.name == "constructor"
  let params ← parameters owner s.params
  if isStatic && returnsOwner owner s && (marked || (s.name == "new" && !i.isMarked)) then
    return { i with constructor? := some params, isMarked := i.isMarked || marked }
  else
    let firstType? := params.head?.bind (·.type.identifier?)
    let annotations ← f.attributes.mapM (annotationOfMethod firstType?)
    let method : Method :=
      { name := s.name, params, isStatic, annotations := annotations.filterMap id }
    return { i with methods := i.methods ++ [method] }

/-- The implementation with what another declaration adds: a trait, or functions of the type
itself. -/
def add (owner : String) (trait? : Option (List String)) (functions : List Source.Function)
    (i : Implementation) : Except Flaw Implementation :=
  match trait? with
  | some names => return { i with traits := i.traits ++ names.getLast?.toList }
  | none => functions.foldlM (addFunction owner) i

end Implementation

/-- The declarations of a project. -/
structure Index where
  declarations : List Declaration := []
  implementations : List (String × Implementation) := []
  deriving Repr

namespace Index

/-- Whether a name is declared. -/
def declares (x : Index) (name : String) : Bool :=
  x.declarations.any (·.name == name)

/-- What the implementations of a type add up to. -/
def implementation (x : Index) (owner : String) : Implementation :=
  (x.implementations.lookup owner).getD {}

/-- The index with another implementation for a type. -/
def putImplementation (x : Index) (owner : String) (i : Implementation) : Index :=
  { x with implementations := (owner, i) :: x.implementations.filter (·.1 != owner) }

/-- The index with one more declaration. -/
def declare (x : Index) (d : Declaration) : Index :=
  { x with declarations := x.declarations ++ [d] }

mutual

/-- The index with what an item of a file declares. -/
def addItem (file : Disk.Path) (x : Index) : Item → Except Flaw Index
  | .struct attributes name isGeneric =>
    if x.declares name then pure x
    else do
      let annotations ← annotationsOfType attributes
      return x.declare
        { name, file, declared := .struct isGeneric (derivesError attributes) annotations }
  | .trait name supertraits =>
    if x.declares name then pure x
    else pure (x.declare
      { name, file, declared := .trait (supertraits.filterMap Bound.traitName?) })
  | .impl owner trait? functions =>
    match owner.name? with
    | some name => do
      return x.putImplementation name (← (x.implementation name).add name trait? functions)
    | none => pure x
  | .module items => addItems file x items
  | .enum | .other => pure x

/-- The index with what the items of a file declare. -/
def addItems (file : Disk.Path) (x : Index) : List Item → Except Flaw Index
  | [] => pure x
  | item :: items => do addItems file (← addItem file x item) items

end

/-- What each declared trait extends. -/
def hierarchy (x : Index) : Hierarchy where
  extensions := x.declarations.filterMap fun d =>
    match d.declared with
    | .trait supertraits => some (d.name, supertraits)
    | .struct .. => none

/-- The descriptor of a declared name. -/
def describe (x : Index) (d : Declaration) : ClassDescriptor :=
  match d.declared with
  | .trait supertraits =>
    { name := d.name, kind := .interface, capabilities := x.hierarchy.closure supertraits,
      source? := some d.file }
  | .struct isGeneric isThrowable annotations =>
    let i := x.implementation d.name
    { name := d.name
      kind := if isThrowable || i.traits.contains "Error" then .throwable
        else if isGeneric then .abstract else .concrete
      capabilities := x.hierarchy.closure i.traits
      annotations
      constructor := i.constructor?.getD []
      methods := i.methods
      source? := some d.file }

/-- The descriptors of all declared names in the order of declaration. -/
def descriptors (x : Index) : List ClassDescriptor :=
  x.declarations.map x.describe

end Index

end Wiring.Discovery
