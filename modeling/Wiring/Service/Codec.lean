import Wiring.Binding.Codec
import Wiring.Service.Entry

/-!
# Service entries as data trees

An entry is a record with one field, which names its case.
-/

namespace Wiring

namespace ServiceDescriptor

/-- The service as a record. A service without a factory says so. -/
def toDatum (s : ServiceDescriptor) : Datum :=
  .record [("class", .text s.className), ("params", .list (Binding.paramsToDatum s.params)),
    ("singleton", .bool s.singleton), ("factory", (s.factory?.map Factory.toDatum).getD .null),
    ("origin", s.origin.toDatum)]

/-- The service that a record stands for. Only its class must be there. -/
def ofDatum? (d : Datum) : Option ServiceDescriptor := do
  match ← d.columns? ["class", "params", "singleton", "factory", "origin"] with
  | [className, params, singleton, factory, origin] =>
    let readParams := Datum.listOf (Binding.named? .json "binding" Binding.ofDatum?)
    return {
      className := ← Datum.required Datum.text? className
      params := (← Datum.optional readParams params).getD []
      singleton := (← Datum.optional Datum.bool? singleton).getD true
      factory? := ← Datum.optional Factory.ofDatum? factory
      origin := (← Datum.optional Origin.ofDatum? origin).getD .discovered }
  | _ => none

end ServiceDescriptor

namespace ServiceEntry

/-- The entry as a record. -/
def toDatum : ServiceEntry → Datum
  | service s => .record [("service", s.toDatum)]
  | ambiguous candidates => .record [("ambiguous", .list (candidates.map .text))]
  | .alias target => .record [("alias", .text target)]

/-- The entry that a record stands for. -/
def ofDatum? : Datum → Option ServiceEntry
  | .record [("service", d)] => (ServiceDescriptor.ofDatum? d).map service
  | .record [("ambiguous", d)] => (Datum.listOf Datum.text? d).map ambiguous
  | .record [("alias", d)] => d.text?.map .alias
  | _ => none

end ServiceEntry

end Wiring
