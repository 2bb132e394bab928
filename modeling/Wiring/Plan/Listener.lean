import Wiring.Config.Basic
import Wiring.Descriptor.Class
import Wiring.Diagnostic
import Wiring.Error
import Wiring.Plan.Container

/-!
# Listener tables

Listeners are grouped by the event they listen to. Groups stand in the order of their first
listener, and listeners keep their order inside a group. A group whose event can be stopped says so.
-/

namespace Wiring

/-- A listener to an event. -/
structure ListenerEntry where
  event : String
  className : String
  method : String
  isStatic : Bool
  deriving DecidableEq, Repr, Inhabited

/-- The listeners of one event. -/
structure ListenerGroup where
  event : String
  stoppable : Bool
  listeners : List ListenerEntry
  deriving DecidableEq, Repr, Inhabited

/-- The listeners of all events. -/
structure ListenerTable where
  groups : List ListenerGroup := []
  deriving DecidableEq, Repr, Inhabited

namespace ListenerEntry

/-- What the listener calls, as `Class::method`. -/
def target (e : ListenerEntry) : String :=
  e.className ++ "::" ++ e.method

end ListenerEntry

namespace ListenerTable

/-- The group of an event. -/
def group? (t : ListenerTable) (event : String) : Option ListenerGroup :=
  t.groups.find? (·.event == event)

/-- The listeners that the annotations of a class give. -/
def annotated (c : ClassDescriptor) : List ListenerEntry :=
  c.methods.flatMap fun m =>
    m.annotations.filterMap fun
      | .listener event => some ⟨event, c.name, m.name, m.isStatic⟩
      | _ => none

/-- The last class with this name. -/
def class? (classes : List ClassDescriptor) (name : String) : Option ClassDescriptor :=
  classes.reverse.find? (·.name == name)

/-- The listener that a declaration gives. Whether it is static is known from the method if that is
known. -/
def declared (classes : List ClassDescriptor) (d : ListenerDeclaration) :
    Except CompileError ListenerEntry :=
  match splitTarget d.target with
  | none => .error (.declaration d.event (.listenerTarget d.target))
  | some (className, method) =>
    let known := class? classes className >>= (·.method? method)
    .ok ⟨d.event, className, method, (known.map (·.isStatic)).getD d.isStatic⟩

/-- Groups with one more listener: at the end of the group of its event, or in a new group. -/
def place (stoppable : String → Bool) (e : ListenerEntry) : List ListenerGroup → List ListenerGroup
  | [] => [⟨e.event, stoppable e.event, [e]⟩]
  | g :: rest =>
    if g.event = e.event then { g with listeners := g.listeners ++ [e] } :: rest
    else g :: place stoppable e rest

/-- Whether the class of an event has the capability of events that can be stopped. -/
def isStoppable (config : Config) (classes : List ClassDescriptor) (event : String) : Bool :=
  ((class? classes event).map (·.implements config.capabilities.stoppableEvent)).getD false

/-- The report on a listener whose object cannot be built. -/
def missing (e : ListenerEntry) : Diagnostic :=
  .error e.target (.missingTarget e.className)

/-- Whether a listener can be called: it is static, or its object can be built. -/
def isCallable (services : ContainerPlan) (e : ListenerEntry) : Bool :=
  e.isStatic || services.has e.className

/-- The table of a project, with the listeners whose objects cannot be built. -/
def compile (config : Config) (classes : List ClassDescriptor) (services : ContainerPlan) :
    Except CompileError (ListenerTable × List Diagnostic) := do
  let declared ← config.listeners.mapM (declared classes)
  let entries := classes.flatMap annotated ++ declared
  let (callable, dropped) := entries.partition (isCallable services)
  let groups := callable.foldl (fun gs e => place (isStoppable config classes) e gs) []
  return (⟨groups⟩, dropped.map missing)

end ListenerTable

/-! ## Data trees -/

namespace ListenerEntry

/-- The listener as a record. -/
def toDatum (e : ListenerEntry) : Datum :=
  .record [("event", .text e.event), ("class", .text e.className), ("method", .text e.method),
    ("is_static", .bool e.isStatic)]

/-- The listener that a record stands for. -/
def ofDatum? (d : Datum) : Option ListenerEntry := do
  match ← d.columns? ["event", "class", "method", "is_static"] with
  | [event, className, method, isStatic] =>
    return ⟨← Datum.required Datum.text? event, ← Datum.required Datum.text? className,
      ← Datum.required Datum.text? method, ← Datum.required Datum.bool? isStatic⟩
  | _ => none

end ListenerEntry

namespace ListenerGroup

/-- The group as a record. -/
def toDatum (g : ListenerGroup) : Datum :=
  .record [("event", .text g.event), ("stoppable", .bool g.stoppable),
    ("listeners", .list (g.listeners.map ListenerEntry.toDatum))]

/-- The group that a record stands for. -/
def ofDatum? (d : Datum) : Option ListenerGroup := do
  match ← d.columns? ["event", "stoppable", "listeners"] with
  | [event, stoppable, listeners] =>
    return ⟨← Datum.required Datum.text? event, ← Datum.required Datum.bool? stoppable,
      ← Datum.required (Datum.listOf ListenerEntry.ofDatum?) listeners⟩
  | _ => none

end ListenerGroup

namespace ListenerTable

/-- The table as a record. -/
def toDatum (t : ListenerTable) : Datum :=
  .record [("groups", .list (t.groups.map ListenerGroup.toDatum))]

/-- The table that a record stands for. -/
def ofDatum? (d : Datum) : Option ListenerTable := do
  match ← d.columns? ["groups"] with
  | [groups] => return ⟨← Datum.required (Datum.listOf ListenerGroup.ofDatum?) groups⟩
  | _ => none

instance : ToDatum ListenerTable := ⟨toDatum⟩

instance : FromDatum ListenerTable := ⟨ofDatum?⟩

end ListenerTable

end Wiring
