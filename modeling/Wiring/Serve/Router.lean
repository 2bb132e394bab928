import Wiring.Route.Search
import Wiring.Serve.Container

/-!
# Answering requests

The route of a request says what is called and where each argument comes from. Captured segments are
converted as the call wants them; a route is only found when they can be.
-/

namespace Wiring

/-- A captured segment as a value of a kind. -/
def Primitive.convert (name raw : String) : Option Primitive → Except ServeError Value
  | some .int =>
    match Decimal.int64? raw with
    | some n => .ok (.int n)
    | none => .error (.argumentType name "int")
  | some .float =>
    match Decimal.float? raw with
    | some x => .ok (.float x)
    | none => .error (.argumentType name "float")
  | some .bool =>
    if raw = "true" ∨ raw = "1" then .ok (.bool true)
    else if raw = "false" ∨ raw = "0" then .ok (.bool false)
    else .error (.argumentType name "bool")
  | some .string | some .array | none => .ok (.str raw)

/-- Routes with the services that their handlers need. -/
structure Router (τ : Type) where
  matcher : RouteMatcher
  container : Container τ

namespace Router

/-- The route of a request. A method that names no verb has none. -/
def find? {τ : Type} (r : Router τ) (method path : String) : Option RouteMatch := do
  r.matcher.find? (← Verb.ofName? method) path

/-- The value of an argument of a call; the request itself is none of them. -/
def argument? {τ : Type} (r : Router τ) (params : List (String × String)) (arg : RouteArg) :
    Serving τ (Option Value) := do
  match arg.source with
  | .captured coerce? =>
    match params.lookup arg.name with
    | some raw => return some (← Primitive.convert arg.name raw coerce?)
    | none => throw (.missingArgument arg.name)
  | .request => return none
  | .default (.literal l) => return some (.ofLiteral l)
  | .default (.constant reference) => return some (← r.container.registry.constant reference)
  | .service id => return some (.service (← r.container.get id))

/-- The arguments of a call, in order. -/
def arguments {τ : Type} (r : Router τ) (params : List (String × String)) :
    List RouteArg → Serving τ (List (String × Value))
  | [] => return []
  | arg :: rest => do
    match ← r.argument? params arg with
    | some v => return (arg.name, v) :: (← r.arguments params rest)
    | none => r.arguments params rest

/-- The object that the handler of a route is called on. A static handler is called on none. -/
def on? {τ : Type} (r : Router τ) (found : RouteMatch) : Serving τ (Option Instance) := do
  match found.call.service? with
  | some id => return some (← r.container.get id)
  | none => return none

/-- Calls the handler of a route. -/
def call {τ : Type} (r : Router τ) (found : RouteMatch) (request : Request) :
    Serving τ Response := do
  let args ← r.arguments found.params found.call.args
  let handler ← r.container.registry.handler found.call.target
  Serving.act (handler (← r.on? found) request ⟨args⟩)

/-- Answers a request by its route. -/
def dispatch {τ : Type} (r : Router τ) (request : Request) : Serving τ Response :=
  match r.find? request.method request.uri.path with
  | some found => r.call found request
  | none => return .notFound

end Router

end Wiring
