import Wiring.Plan.Container
import Wiring.Serve.Registry

/-!
# Getting services

The container evaluates the arguments that a plan lists and calls the registered constructor or
factory. What to build was decided when the plan was made. A singleton is built for the first
request and remembered under its identifier, which its aliases share; the container itself is never
remembered. It has a handle to itself, which does not keep it alive: it leads to the container as
long as the container is shared, and nowhere once it was taken out of what shared it.

Building a service goes down into the services that its arguments name. On a plan without cycles no
way down is longer than the plan has services, so that many steps are enough.
-/

namespace Wiring

/-- A plan with the functions it refers to. -/
structure Container (τ : Type) where
  plan : ContainerPlan
  registry : Registry τ
  /-- Whether the container is shared, and its handle to itself leads to it. -/
  isShared : Bool := true

/-- The function that builds a service. -/
def Registry.builder {τ : Type} (r : Registry τ) (s : Construction) :
    Except ServeError (Constructor τ) :=
  match s.factory? with
  | some f => r.factory (f.owner ++ "::" ++ f.method)
  | none => r.constructor s.className

namespace Container

mutual

/-- The value of an argument, given how services are got. -/
def value {τ : Type} (r : Registry τ) (get : String → Serving τ Instance) :
    Argument → Serving τ Value
  | .literal v => return .ofLiteral v
  | .constant reference => do return ← r.constant reference
  | .env key fallback => do
    match ← Serving.envValue? key with
    | some s => return .str s
    | none => fallbackValue r get key fallback
  | .service id => do return .service (← get id)
  | .array entries => do
    if entries.all (·.1.isNone) then return .list (← itemValues r get entries)
    else return .map (← entryValues r get 0 entries)
  | .closure source args => do
    let _ ← r.closure source
    return .closure source (← argValues r get args)

/-- The value that stands in for a variable that is not set. -/
def fallbackValue {τ : Type} (r : Registry τ) (get : String → Serving τ Instance) (key : String) :
    Option Argument → Serving τ Value
  | some a => value r get a
  | none => throw (.missingEnv key)

/-- The values of the entries of an array without keys. -/
def itemValues {τ : Type} (r : Registry τ) (get : String → Serving τ Instance) :
    List (Option ArrayKey × Argument) → Serving τ (List Value)
  | [] => return []
  | (_, a) :: rest => do
    let v ← value r get a
    return v :: (← itemValues r get rest)

/-- The entries of an array with keys. An entry without a key gets its position. -/
def entryValues {τ : Type} (r : Registry τ) (get : String → Serving τ Instance) (position : Nat) :
    List (Option ArrayKey × Argument) → Serving τ (List (ArrayKey × Value))
  | [] => return []
  | (key?, a) :: rest => do
    let v ← value r get a
    let key := key?.getD (.index (Int64.ofNat position))
    return (key, v) :: (← entryValues r get (position + 1) rest)

/-- The values of named arguments. -/
def argValues {τ : Type} (r : Registry τ) (get : String → Serving τ Instance) :
    List (String × Argument) → Serving τ (List (String × Value))
  | [] => return []
  | (name, a) :: rest => do
    let v ← value r get a
    return (name, v) :: (← argValues r get rest)

end

/-- Calls a constructor. A call that succeeds uses up a serial number. -/
def call {τ : Type} (f : Constructor τ) (args : Args) : Serving τ Instance :=
  fun w =>
    match Serving.act (f (w.built + 1) args) w with
    | (.ok p, w') => (.ok (.object p.type p.label (w.built + 1)), { w' with built := w.built + 1 })
    | (.error e, w') => (.error e, w')

/-- Calls the function that builds a service. -/
def assemble {τ : Type} (r : Registry τ) (s : Construction) (args : List (String × Value)) :
    Serving τ Instance := do
  call (← r.builder s) ⟨args⟩

/-- Builds a service of a plan. The container is found by its handle to itself. -/
def construct {τ : Type} (c : Container τ) (get : String → Serving τ Instance) (s : Construction) :
    Serving τ Instance :=
  match s.origin with
  | .builtin .container => if c.isShared then return .container else throw (.serviceNotFound s.id)
  | .builtin .config => return .config
  | .discovered | .manual => do assemble c.registry s (← argValues c.registry get s.args)

/-- Answers a request for a service of a plan. A singleton that is remembered is not built again. -/
def answer {τ : Type} (c : Container τ) (get : String → Serving τ Instance) (s : Construction) :
    Serving τ Instance := do
  if s.origin = .builtin .container then c.construct get s
  else if s.singleton then
    match ← Serving.singleton? s.id with
    | some i => return i
    | none => Serving.remember s.id (← c.construct get s)
  else c.construct get s

/-- Gets a service, going down for a number of steps. -/
def getWithin {τ : Type} (c : Container τ) : (steps : Nat) → String → Serving τ Instance
  | 0, id => throw (.endless id)
  | steps + 1, id =>
    match c.plan.resolve? id with
    | none => throw (.serviceNotFound id)
    | some s => c.answer (c.getWithin steps) s

/-- The number of steps that is enough on a plan without cycles. -/
def depth {τ : Type} (c : Container τ) : Nat :=
  c.plan.services.length + 1

/-- Gets a service. -/
def get {τ : Type} (c : Container τ) (id : String) : Serving τ Instance :=
  c.getWithin c.depth id

/-- Gets a service that has to be of a type. -/
def getAs {τ : Type} (c : Container τ) (id : String) (type : InstanceType) :
    Serving τ Instance := do
  let i ← c.get id
  if i.type = type then return i else throw (.argumentType id type.name)

/-- The value of an argument. -/
def evaluate {τ : Type} (c : Container τ) (a : Argument) : Serving τ Value :=
  value c.registry c.get a

end Container

end Wiring
