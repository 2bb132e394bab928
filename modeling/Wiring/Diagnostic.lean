import Wiring.Datum.Decode

/-!
# Diagnostics

A diagnostic reports one identifier, route or entry that compiling left out, or that merits a
warning. Compiling goes on after it.
-/

namespace Wiring

/-- How serious a diagnostic is. -/
inductive Severity where
  | warning | error
  deriving DecidableEq, Repr, Inhabited

/-- What a diagnostic reports. -/
inductive Finding where
  /-- Several classes implement the identifier. -/
  | ambiguous (candidates : List String)
  /-- Building the identifier would need itself; the path says through what. -/
  | cycle (path : List String)
  /-- A parameter has no binding. -/
  | unresolvableParameter (param : String)
  /-- A parameter needs something that cannot be built. -/
  | missingDependency (param dependency : String)
  /-- A parameter of a route target cannot be bound. -/
  | unboundRouteParameter (param : String)
  /-- The class behind a route, a middleware or a listener cannot be built. -/
  | missingTarget (target : String)
  /-- A route took the place of an earlier one. -/
  | routeOverwritten (previous : String)
  /-- Several routes have the name. -/
  | duplicateRouteName (name : String)
  /-- A finding of a pass. -/
  | custom (message : String)
  deriving DecidableEq, Repr, Inhabited

/-- A finding about a subject. -/
structure Diagnostic where
  severity : Severity
  subject : String
  finding : Finding
  deriving DecidableEq, Repr, Inhabited

namespace Severity

/-- The name of a severity. -/
def name : Severity → String
  | warning => "warning"
  | error => "error"

/-- The severity with this name. -/
def ofName? : String → Option Severity
  | "warning" => some warning
  | "error" => some error
  | _ => none

end Severity

namespace Finding

/-- The finding as a sentence without its subject. -/
def text : Finding → String
  | ambiguous candidates => "ambiguous, implemented by " ++ ", ".intercalate candidates
  | cycle path => "circular dependency " ++ " -> ".intercalate path
  | unresolvableParameter param => "parameter '" ++ param ++ "' cannot be resolved"
  | missingDependency param dependency =>
    "parameter '" ++ param ++ "' requires '" ++ dependency ++ "' which cannot be constructed"
  | unboundRouteParameter param => "route parameter '" ++ param ++ "' cannot be bound"
  | missingTarget target => "target '" ++ target ++ "' is not constructible"
  | routeOverwritten previous => "replaces previous target " ++ previous
  | duplicateRouteName name => "route name '" ++ name ++ "' is used more than once"
  | custom message => message

/-- The fields that say what was found. -/
def fields : Finding → List (String × Datum)
  | ambiguous candidates => [("kind", .text "ambiguous"),
    ("candidates", .list (candidates.map .text))]
  | cycle path => [("kind", .text "cycle"), ("path", .list (path.map .text))]
  | unresolvableParameter param => [("kind", .text "unresolvable_parameter"),
    ("param", .text param)]
  | missingDependency param dependency =>
    [("kind", .text "missing_dependency"), ("param", .text param), ("dependency", .text dependency)]
  | unboundRouteParameter param =>
    [("kind", .text "unbound_route_parameter"), ("param", .text param)]
  | missingTarget target => [("kind", .text "missing_target"), ("target", .text target)]
  | routeOverwritten previous => [("kind", .text "route_overwritten"), ("previous", .text previous)]
  | duplicateRouteName name => [("kind", .text "duplicate_route_name"), ("name", .text name)]
  | custom message => [("kind", .text "custom"), ("message", .text message)]

/-- The names of the cases. -/
def cases : List String :=
  ["ambiguous", "cycle", "unresolvable_parameter", "missing_dependency", "unbound_route_parameter",
    "missing_target", "route_overwritten", "duplicate_route_name", "custom"]

/-- The finding that the fields of a record describe. -/
def ofDatum? (d : Datum) : Option Finding := do
  let field (name : String) : Option (Option Datum) := do (← d.columns? [name]).head?
  let text (name : String) : Option String := do Datum.required Datum.text? (← field name)
  let texts (name : String) : Option (List String) := do
    Datum.required (Datum.listOf Datum.text?) (← field name)
  match ← d.tagged? Datum.Style.json.aside "kind" cases with
  | "ambiguous" => return .ambiguous (← texts "candidates")
  | "cycle" => return .cycle (← texts "path")
  | "unresolvable_parameter" => return .unresolvableParameter (← text "param")
  | "missing_dependency" => return .missingDependency (← text "param") (← text "dependency")
  | "unbound_route_parameter" => return .unboundRouteParameter (← text "param")
  | "missing_target" => return .missingTarget (← text "target")
  | "route_overwritten" => return .routeOverwritten (← text "previous")
  | "duplicate_route_name" => return .duplicateRouteName (← text "name")
  | "custom" => return .custom (← text "message")
  | _ => none

end Finding

namespace Diagnostic

/-- The diagnostic as a line of text. -/
def text (d : Diagnostic) : String :=
  d.subject ++ ": " ++ d.finding.text

/-- An error about a subject. -/
def error (subject : String) (finding : Finding) : Diagnostic :=
  ⟨.error, subject, finding⟩

/-- A warning about a subject. -/
def warning (subject : String) (finding : Finding) : Diagnostic :=
  ⟨.warning, subject, finding⟩

/-- Whether the diagnostic is an error. -/
def isError (d : Diagnostic) : Bool :=
  d.severity = .error

/-- The diagnostic as a record. -/
def toDatum (d : Diagnostic) : Datum :=
  .record <| [("severity", .text d.severity.name), ("subject", .text d.subject)] ++ d.finding.fields

/-- The diagnostic that a record stands for. -/
def ofDatum? (d : Datum) : Option Diagnostic := do
  match d with
  | .record _ =>
    match ← d.columns? ["severity", "subject"] with
    | [severity, subject] =>
      return {
        severity := ← severity >>= Datum.caseName? .json >>= Severity.ofName?
        subject := ← Datum.required Datum.text? subject
        finding := ← Finding.ofDatum? d }
    | _ => none
  | _ => none

instance : ToDatum Diagnostic := ⟨toDatum⟩

instance : FromDatum Diagnostic := ⟨ofDatum?⟩

end Diagnostic

end Wiring
