import Wiring.Artifact.Load
import Wiring.Serve.Dispatcher
import Wiring.Serve.Pipeline
import Wiring.Serve.Router

/-!
# Serving a project

Booting checks that every pattern of the router can be read and gets the instances of the
middleware. Requests then run through the middleware and the router; an error becomes a response.
-/

namespace Wiring

/-- A project that is served. -/
structure Kernel (τ : Type) where
  container : Container τ
  router : Router τ
  pipeline : Pipeline τ
  listeners : ListenerTable

namespace Kernel

/-- Boots from artifacts with the functions of an application. -/
def boot {τ : Type} (artifacts : LoadedArtifacts) (registry : Registry τ) :
    Serving τ (Kernel τ) := do
  let plans := artifacts.plans
  let container : Container τ := { plan := plans.container, registry }
  match RouteMatcher.ofPlan? plans.router with
  | none => throw (.artifactInvalid (artifacts.path .router) .requirement)
  | some matcher =>
    let pipeline ← Pipeline.resolve container plans.middleware
    return { container, router := { matcher, container }, pipeline, listeners := plans.listeners }

/-- Runs a request through the middleware and the router. -/
def respond {τ : Type} (k : Kernel τ) (request : Request) : Serving τ Response :=
  k.pipeline.run k.router.dispatch request

/-- Answers a request. An error becomes a response with the status of the error. -/
def handle {τ : Type} (k : Kernel τ) (request : Request) : StateM (World τ) Response :=
  fun w =>
    match k.respond request w with
    | (.ok response, w) => (response, w)
    | (.error e, w) => (.ofError e, w)

end Kernel

end Wiring
