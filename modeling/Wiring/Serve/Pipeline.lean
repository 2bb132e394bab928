import Wiring.Plan.Middleware
import Wiring.Serve.Container

/-!
# Middleware in front of the router

Each middleware gets the request and what comes after it. It may answer by itself, change the
request, hand it on, or change the answer.
-/

namespace Wiring

/-- A middleware with the instance it runs on. -/
structure MiddlewareLink (τ : Type) where
  className : String
  on : Instance
  run : Middleware τ

/-- The middleware of a project in the order in which requests pass. -/
structure Pipeline (τ : Type) where
  links : List (MiddlewareLink τ) := []

namespace Pipeline

/-- Gets the instance and the function of each entry, in order. -/
def resolveLinks {τ : Type} (c : Container τ) :
    List MiddlewareEntry → Serving τ (List (MiddlewareLink τ))
  | [] => return []
  | e :: rest => do
    let on ← c.get e.className
    let run ← c.registry.middleware e.className
    return ⟨e.className, on, run⟩ :: (← resolveLinks c rest)

/-- The middleware of a plan, ready to run. -/
def resolve {τ : Type} (c : Container τ) (plan : MiddlewarePlan) : Serving τ (Pipeline τ) := do
  return ⟨← resolveLinks c plan.entries⟩

/-- The classes of the middleware, in order. -/
def classes {τ : Type} (p : Pipeline τ) : List String :=
  p.links.map (·.className)

/-- Runs a request through the middleware and on to the endpoint. -/
def run {τ : Type} (p : Pipeline τ) (endpoint : Request → Serving τ Response) :
    Request → Serving τ Response :=
  p.links.foldr (fun link next request => link.run link.on request next) endpoint

end Pipeline

end Wiring
