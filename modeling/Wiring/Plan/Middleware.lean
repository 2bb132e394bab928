import Wiring.Config.Basic
import Wiring.Descriptor.Class
import Wiring.Diagnostic
import Wiring.Plan.Container

/-!
# Middleware plans

The candidates are the annotated classes and those declared by hand. A declaration of a class that
is a candidate already only changes its priority. Candidates that can be built run in descending
priority; equal priorities keep the order of the candidates.
-/

namespace Wiring

/-- A middleware with its priority. -/
structure MiddlewareEntry where
  className : String
  priority : Int32
  deriving DecidableEq, Repr, Inhabited

/-- Middleware in the order in which it runs. -/
structure MiddlewarePlan where
  entries : List MiddlewareEntry := []
  deriving DecidableEq, Repr, Inhabited

namespace MiddlewarePlan

/-- The classes in the order in which they run. -/
def classes (p : MiddlewarePlan) : List String :=
  p.entries.map (·.className)

/-- The entry of an annotated class. -/
def annotated? (c : ClassDescriptor) : Option MiddlewareEntry :=
  c.middlewarePriority?.map fun priority => ⟨c.name, priority⟩

/-- Candidates with one more: the first candidate of the class gets the priority, or the class
becomes the last candidate. -/
def declare (d : MiddlewareDeclaration) : List MiddlewareEntry → List MiddlewareEntry
  | [] => [⟨d.className, d.priority⟩]
  | e :: rest =>
    if e.className = d.className then { e with priority := d.priority } :: rest
    else e :: declare d rest

/-- All candidates, with their final priorities. -/
def candidates (config : Config) (classes : List ClassDescriptor) : List MiddlewareEntry :=
  config.middlewares.foldl (fun entries d => declare d entries) (classes.filterMap annotated?)

/-- The report on a candidate that cannot be built. -/
def missing (e : MiddlewareEntry) : Diagnostic :=
  .error e.className (.missingTarget e.className)

/-- The plan of a project, with the candidates that cannot be built. -/
def compile (config : Config) (classes : List ClassDescriptor) (services : ContainerPlan) :
    MiddlewarePlan × List Diagnostic :=
  let (built, dropped) := (candidates config classes).partition fun e => services.has e.className
  (⟨built.mergeSort fun a b => b.priority ≤ a.priority⟩, dropped.map missing)

end MiddlewarePlan

/-! ## Data trees -/

namespace MiddlewareEntry

/-- The entry as a record. -/
def toDatum (e : MiddlewareEntry) : Datum :=
  .record [("class", .text e.className), ("priority", .int e.priority.toInt)]

/-- The entry that a record stands for. -/
def ofDatum? (d : Datum) : Option MiddlewareEntry := do
  match ← d.columns? ["class", "priority"] with
  | [className, priority] =>
    return ⟨← Datum.required Datum.text? className, ← Datum.required Annotation.priority? priority⟩
  | _ => none

end MiddlewareEntry

namespace MiddlewarePlan

/-- The plan as a record. -/
def toDatum (p : MiddlewarePlan) : Datum :=
  .record [("entries", .list (p.entries.map MiddlewareEntry.toDatum))]

/-- The plan that a record stands for. -/
def ofDatum? (d : Datum) : Option MiddlewarePlan := do
  match ← d.columns? ["entries"] with
  | [entries] => return ⟨← Datum.required (Datum.listOf MiddlewareEntry.ofDatum?) entries⟩
  | _ => none

instance : ToDatum MiddlewarePlan := ⟨toDatum⟩

instance : FromDatum MiddlewarePlan := ⟨ofDatum?⟩

end MiddlewarePlan

end Wiring
