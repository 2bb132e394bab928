import Wiring.Config.Check
import Wiring.Discovery.Project
import Wiring.Plan.Listener
import Wiring.Plan.Middleware
import Wiring.Plan.Router
import Wiring.Route.Table
import Wiring.Service.Graph
import Wiring.Service.Registration

/-!
# Compiling a project

The descriptors of a project and its configuration become four plans: container, router, middleware
and listeners. Each of them can be empty. The passes named in the configuration run last and may
change the plans; each of them is looked up before anything else is done. The descriptors are given,
or found in the sources of the project without the artifacts of an earlier compilation.
-/

namespace Wiring

/-- The four plans of a project. -/
structure Plans where
  container : ContainerPlan := {}
  router : RouterPlan := {}
  middleware : MiddlewarePlan := {}
  listeners : ListenerTable := {}
  deriving Inhabited

namespace Plans

/-- The plans as a record with a field for each. -/
def toDatum (p : Plans) : Datum :=
  .record [("container", p.container.toDatum), ("router", p.router.toDatum),
    ("middleware", p.middleware.toDatum), ("listeners", p.listeners.toDatum)]

/-- The plans that a record stands for. A plan that is left out is empty. -/
def ofDatum? (d : Datum) : Option Plans := do
  match ← d.columns? ["container", "router", "middleware", "listeners"] with
  | [container, router, middleware, listeners] =>
    return {
      container := (← Datum.optional ContainerPlan.ofDatum? container).getD {}
      router := (← Datum.optional RouterPlan.ofDatum? router).getD {}
      middleware := (← Datum.optional MiddlewarePlan.ofDatum? middleware).getD {}
      listeners := (← Datum.optional ListenerTable.ofDatum? listeners).getD {} }
  | _ => none

end Plans

/-- Plans with what was found while they were made. -/
structure Compilation where
  plans : Plans
  diagnostics : List Diagnostic
  deriving Inhabited

/-- A step that runs after the plans are made. -/
abbrev Pass := Config → Compilation → Except CompileError Compilation

namespace Pass

/-- Values grouped by name, in the order of names. -/
def group (name value : String) : List (String × List String) → List (String × List String)
  | [] => [(name, [value])]
  | (n, vs) :: rest =>
    if name = n then (n, vs ++ [value]) :: rest
    else if name < n then (name, [value]) :: (n, vs) :: rest
    else (n, vs) :: group name value rest

/-- The places of named routes, by name. -/
def namedRoutes (p : RouterPlan) : List (String × List String) :=
  p.routes.foldl (fun done (verb, call) =>
    match call.name? with
    | some name => group name (verb.name ++ " " ++ call.path) done
    | none => done) []

/-- Reports every route whose name another route has too. -/
def uniqueRouteNames : Pass := fun _ c =>
  let repeated := (namedRoutes c.plans.router).filter fun (_, routes) => 1 < routes.length
  let found := repeated.flatMap fun (name, routes) =>
    routes.map fun route => Diagnostic.error route (.duplicateRouteName name)
  .ok { c with diagnostics := c.diagnostics ++ found }

/-- The passes that every project can name. -/
def standard : List (String × Pass) :=
  [("unique-route-names", uniqueRouteNames)]

/-- The passes with the names given, each the first of its name; or the first name that none has. -/
def find (known : List (String × Pass)) : List String → Except CompileError (List Pass)
  | [] => .ok []
  | name :: rest =>
    match known.lookup name with
    | some pass => (find known rest).map (pass :: ·)
    | none => .error (.unknownPass name)

end Pass

namespace Compilation

/-- The errors among the diagnostics. -/
def errors (c : Compilation) : List Diagnostic :=
  c.diagnostics.filter (·.isError)

/-- The warnings among the diagnostics. -/
def warnings (c : Compilation) : List Diagnostic :=
  c.diagnostics.filter (!·.isError)

/-- Makes the plans of a project. The passes given are looked up before the standard ones. -/
def ofClasses (known : List (String × Pass)) (config : Config) (classes : List ClassDescriptor) :
    Except CompileError Compilation := do
  config.check
  let passes ← Pass.find (known ++ Pass.standard) config.passes
  let (services, registered) ← Registrations.build config classes
  let (container, resolved) := ServiceGraph.resolve services
  let (router, routed) ← RouteTable.compile config classes container
  let (middleware, ordered) := MiddlewarePlan.compile config classes container
  let (listeners, grouped) ← ListenerTable.compile config classes container
  let compilation : Compilation := {
    plans := { container, router, middleware, listeners }
    diagnostics := registered ++ resolved ++ routed ++ ordered ++ grouped }
  passes.foldlM (fun c pass => pass config c) compilation

/-- Makes the plans of descriptors, without those that were read from artifacts. -/
def ofDescriptors (known : List (String × Pass)) (config : Config)
    (classes : List ClassDescriptor) : Except CompileError Compilation :=
  let isArtifact (path : Disk.Path) : Bool := config.artifactPaths.any (Disk.Path.same path)
  ofClasses known config (classes.filter fun c => !(c.source?.map isArtifact).getD false)

/-- Makes the plans of the project that a configuration belongs to, from the sources in some of its
directories. -/
def ofProject (known : List (String × Pass)) (config : Config) (dirs : List Disk.Path) :
    Disk.Job (Except CompileError Compilation) := do
  match ← Discovery.classes config.projectRoot dirs config.artifactPaths with
  | .error e => return .error e
  | .ok classes => return ofClasses known config classes

end Compilation

end Wiring
