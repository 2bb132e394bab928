import Wiring.Config.Basic
import Wiring.Descriptor.Class
import Wiring.Error
import Wiring.Pattern.Reader
import Wiring.Route.Path

/-!
# Definitions of routes

A route is defined by an annotation on a method, behind the prefix of its class, or by a declaration
of the configuration. A definition is well formed when its captures have different names and its
patterns are patterns of its captures.
-/

namespace Wiring

/-- A route whose target has not been looked up. -/
structure RouteDefinition where
  verb : Verb
  path : String
  /-- Patterns of captures, sorted by capture. -/
  requirements : List (String × String) := []
  name? : Option String := none
  className : String
  method : String
  deriving Repr, Inhabited

namespace RouteDefinition

/-- How messages refer to the route. -/
def subject (r : RouteDefinition) : String :=
  r.verb.name ++ " " ++ r.path

/-- What the route calls, as `Class::method`. -/
def target (r : RouteDefinition) : String :=
  r.className ++ "::" ++ r.method

/-- The path of a route behind a prefix; it has to start with a slash of its own. -/
def checkedPath (start path owner : String) : Except CompileError String :=
  if path.toList.head? = some '/' then .ok (Route.join start path)
  else .error (.declaration owner (.routePathStart path))

/-- Puts a pattern where its capture belongs in the order of names; a second one for a capture
replaces the first. -/
def placeRequirement (capture pattern : String) :
    List (String × String) → List (String × String)
  | [] => [(capture, pattern)]
  | (c, p) :: rest =>
    if capture = c then (capture, pattern) :: rest
    else if capture < c then (capture, pattern) :: (c, p) :: rest
    else (c, p) :: placeRequirement capture pattern rest

/-- Patterns sorted by capture, the last one of each capture kept. -/
def sortRequirements (requirements : List (String × String)) : List (String × String) :=
  requirements.foldl (fun done (c, p) => placeRequirement c p done) []

/-- The definition that an annotation of a method gives, if it is one of a route. -/
def ofAnnotation (c : ClassDescriptor) (m : Method) :
    Annotation → Except CompileError (Option RouteDefinition)
  | .route verb path requirements name? => do
    let path ← checkedPath (c.routePrefix?.getD "") path c.name
    return some ⟨verb, path, sortRequirements requirements, name?, c.name, m.name⟩
  | _ => .ok none

/-- The definitions that a class gives, in the order of methods and annotations. -/
def ofClass (c : ClassDescriptor) : Except CompileError (List RouteDefinition) := do
  let marks := c.methods.flatMap fun m => m.annotations.map (m, ·)
  return (← marks.mapM fun (m, a) => ofAnnotation c m a).filterMap id

/-- The definition that a declaration gives. -/
def ofDeclaration (r : RouteDeclaration) : Except CompileError RouteDefinition := do
  match splitTarget r.target with
  | none => throw (.declaration r.target .targetForm)
  | some (className, method) =>
    return ⟨r.verb, ← checkedPath "" r.path r.target, r.requirements, r.name?, className, method⟩

/-- The first member of a list that occurs in it before. -/
def firstRepeated? (seen : List String) : List String → Option String
  | [] => none
  | s :: rest => if s ∈ seen then some s else firstRepeated? (s :: seen) rest

/-- Checks the captures and patterns of a definition. -/
def check (r : RouteDefinition) : Except CompileError Unit := do
  let names := Route.captures r.path
  if let some name := firstRepeated? [] names then
    throw (.declaration r.subject (.capturedTwice name))
  r.requirements.forM fun (capture, pattern) => do
    if capture ∉ names then throw (.declaration r.subject (.requirementNotInPath capture))
    if (Pattern.ofText? (Route.anchored pattern)).isNone then
      throw (.invalidRequirement r.path capture)

/-- All definitions: those of classes first, then the declared ones. None is checked before all
have been read. -/
def all (config : Config) (classes : List ClassDescriptor) :
    Except CompileError (List RouteDefinition) := do
  let found ← classes.mapM ofClass
  let declared ← config.routes.mapM ofDeclaration
  let definitions := found.flatten ++ declared
  definitions.forM check
  return definitions

end RouteDefinition

end Wiring
