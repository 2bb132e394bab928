import Wiring.Plan.Listener
import Wiring.Serve.Container

/-!
# Dispatching events

The listeners of an event hear it in the order of the table. Before each listener of an event that
can be stopped the event is asked whether it is stopped. The first error ends the dispatch.
-/

namespace Wiring

/-- What dispatching does: it also changes the event. -/
abbrev Hearing (τ α : Type) := ExceptT ServeError (StateT Event (StateM (World τ))) α

namespace Hearing

/-- Does something that leaves the event as it is. -/
def serve {τ α : Type} (f : Serving τ α) : Hearing τ α :=
  fun event w =>
    let (result, w) := f w
    ((result, event), w)

/-- Runs a listener of the application. -/
def act {τ : Type} (f : ExceptT ServeError (StateT Event (StateM τ)) Unit) : Hearing τ Unit :=
  fun event w =>
    let ((result, event), own) := f event w.own
    ((result, event), { w with own })

end Hearing

namespace ListenerTable

/-- The object that a listener is called on. A static listener is called on none. -/
def on? {τ : Type} (c : Container τ) (e : ListenerEntry) : Serving τ (Option Instance) := do
  if e.isStatic then return none
  else return some (← c.get e.className)

/-- Lets one listener hear the event. -/
def hear {τ : Type} (c : Container τ) (e : ListenerEntry) : Hearing τ Unit := do
  let listener ← c.registry.listener e.target
  Hearing.act (listener (← Hearing.serve (on? c e)))

/-- Lets the listeners of a group hear the event until it is stopped. The result is how many did. -/
def hearAll {τ : Type} (c : Container τ) (stoppable : Bool) (heard : Nat) :
    List ListenerEntry → Hearing τ Nat
  | [] => return heard
  | e :: rest => do
    if stoppable && (← getThe Event).isStopped then return heard
    hear c e
    hearAll c stoppable (heard + 1) rest

/-- Dispatches an event to the listeners of its type. -/
def dispatch {τ : Type} (t : ListenerTable) (c : Container τ) (type : String) : Hearing τ Nat :=
  match t.group? type with
  | some g => hearAll c g.stoppable 0 g.listeners
  | none => return 0

end ListenerTable

end Wiring
