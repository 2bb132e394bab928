import Wiring.Diagnostic
import Wiring.Plan.Container

/-!
# From service map to container plan

Every identifier is visited in registration order, and through the links of its bindings so is
whatever it needs. A chain is lowered to its first satisfiable link. Coming back to an identifier
that is still being visited closes a cycle: that link fails.

A result found under an open cycle holds only as long as the frame that the cycle leads back to is
on the stack (`Visit.open?`). It is reused below that frame, but settled only when the frame is:
then the successes that waited for it keep the arguments they were lowered with, and the failures
are forgotten, to be visited anew.
-/

namespace Wiring.ServiceGraph

/-- Why an identifier cannot be built. -/
inductive Failure where
  | notRegistered
  | ambiguous
  /-- Building it needs itself, through the identifiers of the path. -/
  | cycle (path : List String)
  | dependency (param dependency : String)
  | aliasTarget (target : String)
  deriving DecidableEq, Repr

/-- A chain without a satisfiable link: the identifier at its head, and why that one fails. -/
structure Blame where
  dependency : String
  cause : Failure
  deriving DecidableEq, Repr

/-- The result of visiting an identifier, with the lowest stack position that it depends on through
an open cycle. -/
structure Visit where
  failure? : Option Failure
  open? : Option Nat
  deriving Repr

/-- A success that waits for a cycle to close. -/
structure Pending where
  id : String
  args : List (String × Argument)
  lowest : Nat
  deriving Repr

/-- What is known while the graph is walked. -/
structure Walk where
  /-- Final results, with the arguments of what can be built. -/
  settled : List (String × Except Failure (List (String × Argument))) := []
  /-- Results that hold while the frame on top of the stack is there. -/
  frame : List (String × Visit) := []
  pending : List Pending := []
  diagnostics : List Diagnostic := []

/-- A step of the walk. -/
abbrev WalkM := StateM Walk

/-- What lowering a chain gives: an argument, nothing if the parameter is left out, or the blame;
with the lowest stack position that this depends on. -/
abbrev Lowered (α : Type) := Except Blame α × Option Nat

/-- The lower of two stack positions. -/
def lowest : Option Nat → Option Nat → Option Nat
  | some a, some b => some (min a b)
  | some a, none => some a
  | none, b => b

/-- Tries the fallback of a link that failed. When it fails too, the blame stays with the link. -/
def fallThrough (fallback : Option (WalkM (Lowered (Option Argument)))) (blame : Blame)
    (open? : Option Nat) : WalkM (Lowered (Option Argument)) := do
  match fallback with
  | none => return (.error blame, open?)
  | some lower =>
    match ← lower with
    | (.ok argument, o) => return (.ok argument, lowest open? o)
    | (.error _, o) => return (.error blame, lowest open? o)

/-- Puts a lowered value in front of the values after it; a value left out adds nothing. -/
def keep {κ : Type} (key : κ) : Option Argument → List (κ × Argument) → List (κ × Argument)
  | some a, rest => (key, a) :: rest
  | none, rest => rest

mutual

/-- Lowers a chain to its first satisfiable link, given how identifiers are visited. -/
def lower (visit : String → WalkM Visit) : Binding → WalkM (Lowered (Option Argument))
  | .literal v => return (.ok (some (.literal v)), none)
  | .constant r => return (.ok (some (.constant r)), none)
  | .skip => return (.ok none, none)
  | .env key fallback => do
    match lowerFallback visit fallback with
    | none => return (.ok (some (.env key none)), none)
    | some lower =>
      match ← lower with
      | (.ok argument, o) => return (.ok (some (.env key argument)), o)
      | (.error _, o) => return (.ok (some (.env key none)), o)
  | .service id fallback => do
    let v ← visit id
    match v.failure? with
    | none => return (.ok (some (.service id)), v.open?)
    | some cause => fallThrough (lowerFallback visit fallback) ⟨id, cause⟩ v.open?
  | .array entries fallback => do
    match ← lowerEntries visit none entries with
    | (.ok values, o) => return (.ok (some (.array values)), o)
    | (.error blame, o) => fallThrough (lowerFallback visit fallback) blame o
  | .closure source params fallback => do
    match ← lowerParams visit none params with
    | (.ok values, o) => return (.ok (some (.closure source values)), o)
    | (.error blame, o) => fallThrough (lowerFallback visit fallback) blame o

/-- How a fallback is lowered, if there is one. -/
def lowerFallback (visit : String → WalkM Visit) :
    Option Binding → Option (WalkM (Lowered (Option Argument)))
  | none => none
  | some b => some (lower visit b)

/-- Lowers the entries of an array up to the first that fails. -/
def lowerEntries (visit : String → WalkM Visit) (open? : Option Nat) :
    List (Option ArrayKey × Binding) → WalkM (Lowered (List (Option ArrayKey × Argument)))
  | [] => return (.ok [], open?)
  | (key, b) :: rest => do
    match ← lower visit b with
    | (.error blame, o) => return (.error blame, lowest open? o)
    | (.ok value, o) =>
      let (values, o) ← lowerEntries visit (lowest open? o) rest
      return (values.map (keep key value), o)

/-- Lowers the parameters of a closure up to the first that fails. -/
def lowerParams (visit : String → WalkM Visit) (open? : Option Nat) :
    List (String × Binding) → WalkM (Lowered (List (String × Argument)))
  | [] => return (.ok [], open?)
  | (name, b) :: rest => do
    match ← lower visit b with
    | (.error blame, o) => return (.error blame, lowest open? o)
    | (.ok value, o) =>
      let (values, o) ← lowerParams visit (lowest open? o) rest
      return (values.map (keep name value), o)

end

/-- The failure of a service one of whose parameters has no satisfiable link. A cycle through the
service is its own failure; any other is that of a dependency. -/
def ownFailure (id param : String) (blame : Blame) : Failure :=
  match blame.cause with
  | .cycle path =>
    if path.contains id then .cycle path else .dependency param blame.dependency
  | _ => .dependency param blame.dependency

/-- Lowers the parameters of the service `id` up to the first that fails. -/
def lowerService (visit : String → WalkM Visit) (id : String) (open? : Option Nat) :
    List (String × Binding) → WalkM (Except Failure (List (String × Argument)) × Option Nat)
  | [] => return (.ok [], open?)
  | (name, b) :: rest => do
    match ← lower visit b with
    | (.error blame, o) => return (.error (ownFailure id name blame), lowest open? o)
    | (.ok value, o) =>
      let (values, o) ← lowerService visit id (lowest open? o) rest
      return (values.map (keep name value), o)

/-- The diagnostic for an identifier of the map that cannot be built. What is not registered or is
ambiguous is no failure of an entry of its own. -/
def Failure.finding? : Failure → Option Finding
  | .cycle path => some (.cycle path)
  | .dependency param needed => some (.missingDependency param needed)
  | .aliasTarget target => some (.missingTarget target)
  | .notRegistered | .ambiguous => none

/-- The settled results with one more; an earlier one for the identifier is replaced. -/
def Walk.settle (w : Walk) (id : String) (result : Except Failure (List (String × Argument))) :
    Walk :=
  { w with settled := (id, result) :: w.settled.filter (·.1 != id) }

/-- Records the final result of an identifier, and reports it if it failed. -/
def Walk.finish (w : Walk) (id : String) (result : Except Failure (List (String × Argument))) :
    Walk :=
  let report := match result with
    | .error failure => failure.finding?.toList.map (Diagnostic.error id)
    | .ok _ => []
  { w.settle id result with diagnostics := w.diagnostics ++ report }

/-- Settles a success that waited, unless its identifier is settled already. -/
def Walk.accept (w : Walk) (p : Pending) : Walk :=
  if (w.settled.lookup p.id).isSome then w else w.settle p.id (.ok p.args)

/-- Settles the successes that waited for the frame at `depth`. -/
def Walk.commit (w : Walk) (depth : Nat) : Walk :=
  let (ready, waiting) := w.pending.partition (depth ≤ ·.lowest)
  ready.foldl Walk.accept { w with pending := waiting }

/-- Makes a success that waits for a frame from `depth` on wait for the position `pos`. -/
def Pending.wait (depth pos : Nat) (p : Pending) : Pending :=
  if depth ≤ p.lowest then { p with lowest := pos } else p

/-- A result as something that waits for the position `pos`, if it is a success. -/
def Pending.ofResult (id : String) (pos : Nat) :
    Except Failure (List (String × Argument)) → List Pending
  | .ok args => [⟨id, args, pos⟩]
  | .error _ => []

/-- Keeps a result that depends on the stack position `pos` below `depth`: what waited for a frame
from `depth` on now waits for that position, a success joins it, and the frame on top may reuse the
result. -/
def Walk.postpone (w : Walk) (id : String) (depth pos : Nat)
    (result : Except Failure (List (String × Argument))) (visit : Visit) : Walk :=
  { w with
    pending := w.pending.map (Pending.wait depth pos) ++ Pending.ofResult id pos result
    frame := (id, visit) :: w.frame.filter (·.1 != id) }

/-- Runs a step in a frame of its own, dropping what only held in it. -/
def inFrame {α : Type} (step : WalkM α) : WalkM α := do
  let outer := (← get).frame
  modify fun w => { w with frame := [] }
  let a ← step
  modify fun w => { w with frame := outer }
  return a

/-- The failure of a result, if it is one. -/
def failureOf {α : Type} : Except Failure α → Option Failure
  | .error failure => some failure
  | .ok _ => none

/-- Ends the visit of an identifier whose frame is at `depth`: a cycle that closes at this frame or
above it is settled here. -/
def close (id : String) (depth : Nat) (result : Except Failure (List (String × Argument)))
    (open? : Option Nat) : WalkM Visit := do
  let open? := open?.filter (· < depth)
  let visit : Visit := ⟨failureOf result, open?⟩
  match open? with
  | none => modify fun w => (w.finish id result).commit depth
  | some pos => modify fun w => w.postpone id depth pos result visit
  return visit

/-- What comes of an alias whose target was visited. A cycle is handed on as it is. -/
def aliasResult (target : String) : Option Failure → Except Failure (List (String × Argument))
  | none => .ok []
  | some (.cycle path) => .error (.cycle path)
  | some _ => .error (.aliasTarget target)

/-- Visits an identifier under the stack of identifiers being visited (innermost last). The number
bounds how many more may be entered; each is entered at most once. -/
def visit (services : ServiceMap) : (room : Nat) → (stack : List String) → String → WalkM Visit
  | room, stack, id => do
    let w ← get
    if let some result := w.settled.lookup id then
      return ⟨failureOf result, none⟩
    if let some pos := stack.findIdx? (· == id) then
      return ⟨some (.cycle (stack.drop pos ++ [id])), some pos⟩
    if let some known := w.frame.lookup id then
      return known
    match services.get? id, room with
    | none, _ => return ⟨some .notRegistered, none⟩
    | some (.ambiguous _), _ => return ⟨some .ambiguous, none⟩
    | some _, 0 => return ⟨some .notRegistered, none⟩
    | some (.alias target), room + 1 =>
      let v ← inFrame (visit services room (stack ++ [id]) target)
      close id stack.length (aliasResult target v.failure?) v.open?
    | some (.service s), room + 1 =>
      let (result, open?) ←
        inFrame (lowerService (visit services room (stack ++ [id])) id none s.params)
      close id stack.length result open?

/-- Visits every identifier in registration order. -/
def walk (services : ServiceMap) : Walk :=
  (services.ids.foldl (fun w id => (visit services services.size [] id w).2) {})

/-- The construction of a service, if it can be built. -/
def construction? (w : Walk) (id : String) (s : ServiceDescriptor) : Option Construction :=
  match w.settled.lookup id with
  | some (.ok args) => some ⟨id, s.className, s.factory?, s.singleton, s.origin, args⟩
  | _ => none

/-- Whether an identifier was settled as one that can be built. -/
def isBuilt (w : Walk) (id : String) : Bool :=
  match w.settled.lookup id with
  | some (.ok _) => true
  | _ => false

/-- The plan of everything that can be built, and the diagnostics for the rest. -/
def resolve (services : ServiceMap) : ContainerPlan × List Diagnostic :=
  let w := walk services
  let plan : ContainerPlan := {
    services := services.entries.filterMap fun
      | (id, .service s) => construction? w id s
      | _ => none
    aliases := services.entries.filterMap fun
      | (id, .alias target) => if isBuilt w id then some (id, target) else none
      | _ => none }
  (plan, w.diagnostics)

end Wiring.ServiceGraph
