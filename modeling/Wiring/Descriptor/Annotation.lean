import Wiring.Http.Verb

/-!
# Annotations

The declarative marks on a class or on one of its methods. A union with its case in the field
`annotation`.
-/

namespace Wiring

/-- A mark on a class or a method. -/
inductive Annotation where
  /-- A route on a method, with the patterns that its captures have to match. -/
  | route (verb : Verb) (path : String) (requirements : List (String × String))
      (name? : Option String)
  /-- A path in front of every route of the class. -/
  | routePrefix (path : String)
  /-- The class is a middleware. -/
  | middleware (priority : Int32)
  /-- The method listens to events of a type. -/
  | listener (event : String)
  /-- Whether the class is built once. -/
  | service (singleton : Bool)
  /-- Any other mark. -/
  | other (name : String)
  deriving DecidableEq, Repr, Inhabited

namespace Annotation

/-- A number of 32 bits with sign. -/
def priority? (d : Datum) : Option Int32 :=
  (d.intBetween? (-0x80000000) 0x7FFFFFFF).map Int32.ofInt

/-- Pairs of a capture and its pattern. -/
def requirements? : Datum → Option (List (String × String)) :=
  Datum.listOf (Datum.pairOf Datum.text? Datum.text?)

/-- The annotation as a record. -/
def toDatum : Annotation → Datum
  | route verb path requirements name? =>
    .record <| [("annotation", .text "route"), ("method", ToDatum.toDatum verb),
      ("path", .text path),
      ("requirements", .list (requirements.map fun (c, p) => .list [.text c, .text p]))] ++
      Datum.optionalField "name" .text name?
  | routePrefix path => .record [("annotation", .text "route_prefix"), ("path", .text path)]
  | middleware priority =>
    .record [("annotation", .text "middleware"), ("priority", .int priority.toInt)]
  | listener event => .record [("annotation", .text "listener"), ("event", .text event)]
  | service singleton => .record [("annotation", .text "service"), ("singleton", .bool singleton)]
  | other name => .record [("annotation", .text "other"), ("name", .text name)]

/-- The names of the cases. -/
def cases : List String :=
  ["route", "route_prefix", "middleware", "listener", "service", "other"]

/-- The annotation that a record stands for. -/
def ofDatum? (d : Datum) : Option Annotation := do
  match ← d.tagged? .json "annotation" cases with
  | "route" =>
    match ← d.columns? ["annotation", "method", "path", "requirements", "name"] with
    | [_, verb, path, requirements, name?] =>
      let verb ← Datum.required (Verb.ofDatum? Datum.Style.json.aside) verb
      return .route verb (← Datum.required Datum.text? path)
        (← Datum.defaulting [] requirements? requirements) (← Datum.optional Datum.text? name?)
    | _ => none
  | "route_prefix" =>
    match ← d.columns? ["annotation", "path"] with
    | [_, path] => return .routePrefix (← Datum.required Datum.text? path)
    | _ => none
  | "middleware" =>
    match ← d.columns? ["annotation", "priority"] with
    | [_, priority] => return .middleware (← Datum.required priority? priority)
    | _ => none
  | "listener" =>
    match ← d.columns? ["annotation", "event"] with
    | [_, event] => return .listener (← Datum.required Datum.text? event)
    | _ => none
  | "service" =>
    match ← d.columns? ["annotation", "singleton"] with
    | [_, singleton] => return .service (← Datum.required Datum.bool? singleton)
    | _ => none
  | "other" =>
    match ← d.columns? ["annotation", "name"] with
    | [_, name] => return .other (← Datum.required Datum.text? name)
    | _ => none
  | _ => none

instance : ToDatum Annotation := ⟨toDatum⟩

instance : FromDatum Annotation := ⟨ofDatum?⟩

end Annotation

end Wiring
