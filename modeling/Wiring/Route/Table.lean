import Wiring.Diagnostic
import Wiring.Plan.Container
import Wiring.Plan.Router
import Wiring.Route.Definition

/-!
# From route definitions to the router plan

Each definition is bound to its target: where every parameter gets its value from is decided once
and for all. A definition that cannot be bound is reported and left out. The others are entered in
order; one that takes the place of another is an error in strict mode and a warning otherwise.
-/

namespace Wiring

namespace RouteTable

/-- The last class with this name. -/
def class? (classes : List ClassDescriptor) (name : String) : Option ClassDescriptor :=
  classes.reverse.find? (·.name == name)

/-- The kind that a captured segment is converted to; a text stays as it is. -/
def coercion? (type : ParamType) : Option Primitive :=
  type.primitive?.filter fun k => k ≠ .string && k ≠ .array

/-- Where a parameter of a route target gets its value. -/
def source? (request : String) (services : ContainerPlan) (captures : List String) (p : Parameter) :
    Option RouteArgSource :=
  if captures.contains p.name then some (.captured (coercion? p.type))
  else if p.type.identifier? == some request then some .request
  else match p.default? with
    | some value => some (.default value)
    | none =>
      if services.has p.name then some (.service p.name)
      else match p.type.identifier? with
        | some id => if services.has id then some (.service id) else none
        | none => none

/-- The sources of all parameters, or the first parameter that has none. -/
def args (request : String) (services : ContainerPlan) (captures : List String) :
    List Parameter → Except Finding (List RouteArg)
  | [] => .ok []
  | p :: rest =>
    match source? request services captures p with
    | none => .error (.unboundRouteParameter p.name)
    | some source => (args request services captures rest).map (⟨p.name, source⟩ :: ·)

/-- The call of a definition, or why there is none. -/
def bind (config : Config) (classes : List ClassDescriptor) (services : ContainerPlan)
    (r : RouteDefinition) : Except Finding RouteCall := do
  match class? classes r.className >>= (·.method? r.method) with
  | none => throw (.missingTarget r.target)
  | some m =>
    if !m.isStatic && !services.has r.className then throw (.missingTarget r.className)
    let args ← args config.capabilities.request services (Route.captures r.path) m.params
    return {
      className := r.className
      method := r.method
      service? := if m.isStatic then none else some r.className
      args
      path := r.path
      name? := r.name? }

/-- Enters a call among the routes without captures; gives back the call it replaces. -/
def placeStatic (verb : Verb) (path : String) (call : RouteCall) :
    List StaticRoute → List StaticRoute × Option RouteCall
  | [] => ([⟨verb, path, call⟩], none)
  | r :: rest =>
    if r.verb = verb ∧ r.path = path then (⟨verb, path, call⟩ :: rest, some r.call)
    else
      let (rest, replaced) := placeStatic verb path call rest
      (r :: rest, replaced)

/-- Enters a call at the place of its definition; gives back the call it replaces. -/
def enter (plan : RouterPlan) (r : RouteDefinition) (call : RouteCall) :
    RouterPlan × Option RouteCall :=
  let template := Route.template r.path
  if template.all Route.Segment.isLiteral then
    let (statics, replaced) := placeStatic r.verb r.path call plan.statics
    ({ plan with statics }, replaced)
  else
    let trie := (plan.trie? r.verb).getD .root
    let (trie, replaced) := trie.insert r.requirements call template
    ({ plan with tries := RouterPlan.placeTrie r.verb trie plan.tries }, replaced)

/-- Binds and enters one definition. -/
def add (config : Config) (classes : List ClassDescriptor) (services : ContainerPlan)
    (done : RouterPlan × List Diagnostic) (r : RouteDefinition) :
    Except CompileError (RouterPlan × List Diagnostic) :=
  let (plan, diagnostics) := done
  match bind config classes services r with
  | .error finding => .ok (plan, diagnostics ++ [.error r.subject finding])
  | .ok call =>
    match enter plan r call with
    | (plan, none) => .ok (plan, diagnostics)
    | (plan, some previous) =>
      if config.strictRoutes then
        .error (.routeConflict r.verb r.path previous.target r.target)
      else
        .ok (plan, diagnostics ++ [.warning r.subject (.routeOverwritten previous.target)])

/-- The router plan of a project, with what was left out or replaced. -/
def compile (config : Config) (classes : List ClassDescriptor) (services : ContainerPlan) :
    Except CompileError (RouterPlan × List Diagnostic) := do
  (← RouteDefinition.all config classes).foldlM (add config classes services) ({}, [])

end RouteTable

end Wiring
