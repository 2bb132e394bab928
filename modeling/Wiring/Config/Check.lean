import Wiring.Config.Basic
import Wiring.Error
import Wiring.Text.Property

/-!
# Checking a configuration

What can be checked before any class is known. The first fault found is the error.
-/

namespace Wiring.Config

/-- The special identifiers with the fields that give them. -/
def specialIds (c : CapabilityConfig) : List (String × String) :=
  [("capabilities.container", c.container), ("capabilities.config", c.config),
    ("capabilities.request", c.request), ("capabilities.stoppable_event", c.stoppableEvent)]

/-- The first text that is empty or stands in the list before. -/
def emptyOrRepeated? (seen : List String) : List String → Option String
  | [] => none
  | s :: rest => if s = "" ∨ s ∈ seen then some s else emptyOrRepeated? (s :: seen) rest

/-- Checks one declared service, given the identifiers declared before it. -/
def checkService (seen : List String) (s : ServiceDeclaration) : Except CompileError Unit := do
  if Text.isBlankText s.id then throw (.declaration "<service>" .emptyIdentifier)
  if s.id ∈ seen then throw (.declaration s.id .declaredTwice)
  if s.factory?.isSome && s.factoryTarget?.isNone then throw (.declaration s.id .factoryForm)
  for (_, binding) in s.arguments?.getD [] ++ s.params do
    match binding.check with
    | .ok () => pure ()
    | .error why => throw (.declaration s.id (.misplacedSkip why))

/-- Checks the declared services in order. -/
def checkServices (seen : List String) : List ServiceDeclaration → Except CompileError Unit
  | [] => return
  | s :: rest => do
    checkService seen s
    checkServices (s.id :: seen) rest

/-- Checks one declared route. -/
def checkRoute (r : RouteDeclaration) : Except CompileError Unit := do
  let subject := r.verb.name ++ " " ++ r.path
  if r.path.toList.head? ≠ some '/' then throw (.declaration subject .pathStart)
  if (splitTarget r.target).isNone then throw (.declaration subject .targetForm)

/-- Checks one declared listener. -/
def checkListener (l : ListenerDeclaration) : Except CompileError Unit := do
  if (splitTarget l.target).isNone then throw (.declaration l.event .listenerTargetForm)

/-- Checks a configuration: special identifiers, artifact names, then the declarations. -/
def check (c : Config) : Except CompileError Unit := do
  for (field, id) in specialIds c.capabilities do
    if Text.isBlankText id then throw (.config (.emptyCapability field))
  if let some name := emptyOrRepeated? [] c.artifactFiles then
    throw (.config (.artifactFile name))
  checkServices [] c.services
  c.routes.forM checkRoute
  c.listeners.forM checkListener

end Wiring.Config
