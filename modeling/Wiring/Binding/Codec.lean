import Wiring.Binding.Basic
import Wiring.Decimal.Nearest

/-!
# Bindings as data trees

A binding is a record with its kind in the field `kind`; a fallback is left out when there is none.
-/

namespace Wiring

namespace ArrayKey

/-- The key as a bare number or text. -/
def toDatum : ArrayKey → Datum
  | index n => .int n.toInt
  | name s => .text s

/-- The key that a number or a text stands for. -/
def ofDatum? : Datum → Option ArrayKey
  | .int n => if Decimal.isInt64 n then some (index (Int64.ofInt n)) else none
  | .text s => some (name s)
  | _ => none

end ArrayKey

namespace Binding

/-- The record of an array entry. -/
def entryDatum (key : Option ArrayKey) (value : Datum) : Datum :=
  .record (Datum.optionalField "key" ArrayKey.toDatum key ++ [("value", value)])

mutual

/-- The binding as a record. -/
def toDatum : Binding → Datum
  | literal v => .record [("kind", .text "literal"), ("value", v.toDatum)]
  | constant r => .record [("kind", .text "named_constant"), ("reference", .text r)]
  | env k f => .record ([("kind", .text "env_lookup"), ("key", .text k)] ++ fallbackField f)
  | service id f =>
    .record ([("kind", .text "injected_service"), ("id", .text id)] ++ fallbackField f)
  | skip => .record [("kind", .text "skip_if_absent")]
  | array es f =>
    .record ([("kind", .text "array_literal"), ("entries", .list (entriesToDatum es))] ++
      fallbackField f)
  | closure s ps f =>
    .record ([("kind", .text "closure_literal"), ("source", .text s),
      ("params", .list (paramsToDatum ps))] ++ fallbackField f)

/-- The field of a fallback. -/
def fallbackField : Option Binding → List (String × Datum)
  | none => []
  | some b => [("fallback", b.toDatum)]

/-- The entries of an array as records. -/
def entriesToDatum : List (Option ArrayKey × Binding) → List Datum
  | [] => []
  | (key, b) :: rest => entryDatum key b.toDatum :: entriesToDatum rest

/-- Named bindings as records. -/
def paramsToDatum : List (String × Binding) → List Datum
  | [] => []
  | (name, b) :: rest => .record [("name", .text name), ("binding", b.toDatum)] ::
    paramsToDatum rest

end

/-- Reads a named value with a reader for the value, which stands in the field `field`. -/
def named? {α : Type} (style : Datum.Style) (field : String) (read : Datum → Option α) (d : Datum) :
    Option (String × α) := do
  match ← d.columnsAs? style ["name", field] with
  | [name, value] => return (← Datum.required Datum.text? name, ← Datum.required read value)
  | _ => none

/-- Reads an array entry with a reader for its value. -/
def keyed? {α : Type} (read : Datum → Option α) (d : Datum) : Option (Option ArrayKey × α) := do
  match ← d.columns? ["key", "value"] with
  | [key, value] => return (← Datum.optional ArrayKey.ofDatum? key, ← Datum.required read value)
  | _ => none

/-- The names of the cases. -/
def cases : List String :=
  ["literal", "named_constant", "env_lookup", "injected_service", "skip_if_absent", "array_literal",
    "closure_literal"]

/-- The binding that a record stands for, read down to a depth. -/
def ofDatumTo? : (depth : Nat) → Datum.Style → Datum → Option Binding
  | 0, _, _ => none
  | depth + 1, style, d => do
    let read := ofDatumTo? depth style.aside
    match ← d.tagged? style "kind" cases with
    | "literal" =>
      match ← d.columns? ["kind", "value"] with
      | [_, value] => return .literal (← Datum.required Literal.ofDatum? value)
      | _ => none
    | "named_constant" =>
      match ← d.columns? ["kind", "reference"] with
      | [_, reference] => return .constant (← Datum.required Datum.text? reference)
      | _ => none
    | "env_lookup" =>
      match ← d.columns? ["kind", "key", "fallback"] with
      | [_, key, fallback] =>
        return .env (← Datum.required Datum.text? key) (← Datum.optional read fallback)
      | _ => none
    | "injected_service" =>
      match ← d.columns? ["kind", "id", "fallback"] with
      | [_, id, fallback] =>
        return .service (← Datum.required Datum.text? id) (← Datum.optional read fallback)
      | _ => none
    | "skip_if_absent" => (d.columns? ["kind"]).map fun _ => .skip
    | "array_literal" =>
      match ← d.columns? ["kind", "entries", "fallback"] with
      | [_, entries, fallback] =>
        return .array (← Datum.required (Datum.listOf (keyed? read)) entries)
          (← Datum.optional read fallback)
      | _ => none
    | "closure_literal" =>
      match ← d.columns? ["kind", "source", "params", "fallback"] with
      | [_, source, params, fallback] =>
        return .closure (← Datum.required Datum.text? source)
          (← Datum.defaulting [] (Datum.listOf (named? style.aside "binding" read)) params)
          (← Datum.optional read fallback)
      | _ => none
    | _ => none

/-- The binding that a record of a style stands for. -/
def ofDatumAs? (style : Datum.Style) (d : Datum) : Option Binding :=
  ofDatumTo? d.height style d

/-- The binding that a record stands for. -/
def ofDatum? (d : Datum) : Option Binding :=
  ofDatumAs? .json d

instance : ToDatum Binding := ⟨toDatum⟩

instance : FromDatum Binding := ⟨ofDatum?⟩

end Binding

end Wiring
