import Wiring.Artifact.Load
import Wiring.Command.Arguments
import Wiring.Compilation
import Wiring.Config.Load
import Wiring.Plan.Listing
import Wiring.Route.Search

/-!
# Running commands

Compiling removes the manifest of the last compilation when it fails, so that what is served is
always the last project that compiled. The other commands look at the artifacts only.
-/

namespace Wiring

/-- Work that may end with a message. -/
abbrev Attempt (α : Type) : Type :=
  ExceptT String Disk.Job α

namespace Attempt

/-- The result of work, with a message that says what failed and why. -/
def orFail {α ε : Type} (what : String) (why : ε → String) (job : Disk.Job (Except ε α)) :
    Attempt α :=
  ExceptT.mk do
    match ← job with
    | .ok a => return .ok a
    | .error e => return .error (what ++ ": " ++ why e)

/-- The outcome of work. -/
def outcome (a : Attempt Outcome) : Disk.Job Outcome := do
  return Outcome.ofExcept (← a.run)

end Attempt

namespace Options

/-- The configuration of a file that is not the project's own. -/
def configFrom (o : Options) (path : Disk.Path) : Attempt Config := do
  let _ ← ExceptT.lift (Environment.load o.root)
  let c ← Attempt.orFail ("Failed to read " ++ path) CompileError.message (Config.ofFile path)
  let c := if Disk.Path.same c.projectRoot "." then { c with projectRoot := o.root } else c
  let c ← ExceptT.lift c.overridden
  Attempt.orFail "Invalid configuration" CompileError.message (pure (c.check.map fun _ => c))

/-- The configuration of a run. -/
def config (o : Options) : Attempt Config :=
  match o.config? with
  | some path => o.configFrom path
  | none =>
    Attempt.orFail "Failed to load configuration" CompileError.message (Config.load o.root)

/-- The artifacts that a run looks at. -/
def artifacts (o : Options) : Attempt LoadedArtifacts := do
  let config ← o.config
  Attempt.orFail "Failed to load compiled artifacts, run \x60prewire compile\x60 first"
    ServeError.message (LoadedArtifacts.load config).run

end Options

namespace Config

/-- Removes the manifest after a failure. -/
def invalidateStale (c : Config) : Attempt Unit :=
  Attempt.orFail "Failed to remove stale manifest" CompileError.message c.invalidate

end Config

namespace Command

/-- The line of a diagnostic. -/
def diagnosticLine (d : Diagnostic) : String :=
  d.severity.name ++ ": " ++ d.text

/-- The lines that tell what was written. -/
def summary (c : Config) (p : Plans) (m : Manifest) : List String :=
  ("✓ " ++ toString p.container.services.length ++ " services, " ++
    toString p.router.size ++ " routes, " ++
    toString p.middleware.entries.length ++ " middleware, " ++
    toString p.listeners.groups.length ++ " events") ::
    m.artifacts.map fun e => "  " ++ e.kind.name ++ " " ++ c.outputDir.join e.file

/-- Writes what was compiled, unless it has diagnostics and none are allowed. -/
def write (run : String) (c : Config) (settings : CompileOptions) (done : Compilation) :
    Attempt Outcome := do
  if settings.denyWarnings && !done.diagnostics.isEmpty then
    c.invalidateStale
    return { status := 1 }
  else
    let manifest ← Attempt.orFail "Failed to write artifacts" CompileError.message
      (done.plans.emit run true c)
    return Outcome.printed (summary c done.plans manifest)

/-- What is told of diagnostics: a line for each, and whether they are too many. -/
def report (settings : CompileOptions) (ds : List Diagnostic) : String :=
  Outcome.lines <| ds.map diagnosticLine ++
    if settings.denyWarnings && !ds.isEmpty then
      ["",
        "Error: " ++ toString ds.length ++ " diagnostic(s) with --deny-warnings, nothing written"]
    else []

/-- Compiles a project with a configuration and writes the artifacts. -/
def compileWith (run : String) (c : Config) (settings : CompileOptions) : Disk.Job Outcome := do
  let dirs := if settings.sources.isEmpty then ["src"] else settings.sources
  let started := Outcome.printed ["→ Compiling " ++ c.projectRoot]
  match ← Compilation.ofProject [] c dirs with
  | .error e =>
    let failed ← Attempt.outcome do
      c.invalidateStale
      throw ("Compilation failed: " ++ e.message)
    return started.after failed
  | .ok done =>
    let reported : Outcome := { errors := report settings done.diagnostics }
    return (started.after reported).after (← (write run c settings done).outcome)

/-- Compiles the project. -/
def compileProject (run : String) (o : Options) (settings : CompileOptions) : Attempt Outcome := do
  let c ← o.config
  let c := match settings.out? with
    | some dir => { c with output := { c.output with dir } }
    | none => c
  ExceptT.lift (compileWith run c settings)

/-- Lists the routes. -/
def listRoutes (o : Options) : Attempt Outcome := do
  let router := (← o.artifacts).plans.router
  if router.routes.isEmpty then return Outcome.printed ["No routes compiled"]
  else return Outcome.printed router.listing

/-- Lists the services. -/
def listServices (o : Options) : Attempt Outcome := do
  return Outcome.printed (← o.artifacts).plans.container.listing

/-- The lines about a route that was found. -/
def foundLines (verb : Verb) (path : String) (m : RouteMatch) : List String :=
  ["✓ " ++ verb.name ++ " " ++ path ++ " -> " ++ m.call.target, "  template: " ++ m.call.path] ++
    (match m.call.name? with
      | some name => ["  name:     " ++ name]
      | none => []) ++
    m.params.map fun (name, value) => "  " ++ name ++ " = " ++ value

/-- Tells which route a request takes. -/
def findRoute (o : Options) (method path : String) : Attempt Outcome := do
  match Verb.ofName? method with
  | none => throw ("Unknown HTTP method '" ++ method ++ "'")
  | some verb =>
    match RouteMatcher.ofPlan? (← o.artifacts).plans.router with
    | none => throw "Invalid route requirement: "
    | some matcher =>
      match matcher.find? verb path with
      | some m => return Outcome.printed (foundLines verb path m)
      | none =>
        return { Outcome.printed
            ["✗ No route matches " ++ verb.name ++ " " ++ path] with status := 1 }

/-- Runs a command. Every run has a name that its staging files carry. -/
def perform (run : String) (o : Options) : Command → Attempt Outcome
  | compile settings => compileProject run o settings
  | routes => listRoutes o
  | services => listServices o
  | find method path => findRoute o method path

/-- Runs a command line. -/
def run (run : String) (args : List String) : Disk.Job Outcome :=
  match ofArguments args with
  | .ok (options, command) => (perform run options command).outcome
  | .error .help => return { output := usage }
  | .error .malformed => return { status := 2, errors := usage }

end Command

end Wiring
