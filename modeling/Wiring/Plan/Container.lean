import Wiring.Binding.Codec
import Wiring.Service.Entry

/-!
# Container plans

A plan lists every identifier that can be built, with the arguments its construction gets, and the
aliases. Arguments are passed by name, so one that is left out shifts no other.
-/

namespace Wiring

/-- An argument, ready to be evaluated when the object is built. -/
inductive Argument where
  | literal (value : Literal)
  | constant (reference : String)
  | env (key : String) (fallback : Option Argument)
  | service (id : String)
  | array (entries : List (Option ArrayKey × Argument))
  | closure (source : String) (args : List (String × Argument))
  deriving Inhabited, BEq, Repr

/-- How one identifier is built. -/
structure Construction where
  id : String
  className : String
  factory? : Option Factory := none
  singleton : Bool
  origin : Origin
  args : List (String × Argument) := []
  deriving Inhabited, BEq, Repr

/-- Everything that can be built. -/
structure ContainerPlan where
  services : List Construction := []
  /-- Pairs of an alias and what it stands for. -/
  aliases : List (String × String) := []
  deriving Inhabited, BEq, Repr

namespace Construction

/-- The argument with this name. -/
def arg? (c : Construction) (name : String) : Option Argument :=
  c.args.lookup name

end Construction

namespace ContainerPlan

/-- The first service with exactly this identifier. -/
def service? (p : ContainerPlan) (id : String) : Option Construction :=
  p.services.find? (·.id == id)

/-- What the first alias with this name stands for. -/
def target? (p : ContainerPlan) (id : String) : Option String :=
  p.aliases.lookup id

/-- Whether an identifier names a service or is an alias. -/
def has (p : ContainerPlan) (id : String) : Bool :=
  (p.service? id).isSome || (p.target? id).isSome

/-- Follows aliases for a number of steps until a service is reached. -/
def follow (p : ContainerPlan) : (steps : Nat) → String → Option Construction
  | 0, id => p.service? id
  | steps + 1, id =>
    match p.service? id with
    | some c => some c
    | none => p.target? id >>= p.follow steps

/-- The service an identifier leads to. More steps than there are aliases would repeat one. -/
def resolve? (p : ContainerPlan) (id : String) : Option Construction :=
  p.follow p.aliases.length id

end ContainerPlan

/-! ## Data trees -/

namespace Argument

mutual

/-- The argument as a record. -/
def toDatum : Argument → Datum
  | literal v => .record [("kind", .text "literal"), ("value", v.toDatum)]
  | constant r => .record [("kind", .text "constant"), ("reference", .text r)]
  | env k f => .record ([("kind", .text "env"), ("key", .text k)] ++ fallbackField f)
  | service id => .record [("kind", .text "service"), ("id", .text id)]
  | array es => .record [("kind", .text "array"), ("entries", .list (entriesToDatum es))]
  | closure s args =>
    .record [("kind", .text "closure"), ("source", .text s), ("args", .list (argsToDatum args))]

/-- The field of a fallback. -/
def fallbackField : Option Argument → List (String × Datum)
  | none => []
  | some a => [("fallback", a.toDatum)]

/-- The entries of an array as records. -/
def entriesToDatum : List (Option ArrayKey × Argument) → List Datum
  | [] => []
  | (key, a) :: rest => Binding.entryDatum key a.toDatum :: entriesToDatum rest

/-- Named arguments as records. -/
def argsToDatum : List (String × Argument) → List Datum
  | [] => []
  | (name, a) :: rest => .record [("name", .text name), ("value", a.toDatum)] :: argsToDatum rest

end

/-- The names of the cases. -/
def cases : List String :=
  ["literal", "constant", "env", "service", "array", "closure"]

/-- The argument that a record stands for, read down to a depth. -/
def ofDatumTo? : (depth : Nat) → Datum.Style → Datum → Option Argument
  | 0, _, _ => none
  | depth + 1, style, d => do
    let read := ofDatumTo? depth style.aside
    match ← d.tagged? style "kind" cases with
    | "literal" =>
      match ← d.columns? ["kind", "value"] with
      | [_, value] => return .literal (← Datum.required Literal.ofDatum? value)
      | _ => none
    | "constant" =>
      match ← d.columns? ["kind", "reference"] with
      | [_, reference] => return .constant (← Datum.required Datum.text? reference)
      | _ => none
    | "env" =>
      match ← d.columns? ["kind", "key", "fallback"] with
      | [_, key, fallback] =>
        return .env (← Datum.required Datum.text? key) (← Datum.optional read fallback)
      | _ => none
    | "service" =>
      match ← d.columns? ["kind", "id"] with
      | [_, id] => return .service (← Datum.required Datum.text? id)
      | _ => none
    | "array" =>
      match ← d.columns? ["kind", "entries"] with
      | [_, entries] =>
        return .array (← Datum.required (Datum.listOf (Binding.keyed? read)) entries)
      | _ => none
    | "closure" =>
      match ← d.columns? ["kind", "source", "args"] with
      | [_, source, args] =>
        return .closure (← Datum.required Datum.text? source)
          (← Datum.defaulting [] (Datum.listOf (Binding.named? .json "value" read)) args)
      | _ => none
    | _ => none

/-- The argument that a record stands for. -/
def ofDatum? (d : Datum) : Option Argument :=
  ofDatumTo? d.height .json d

instance : ToDatum Argument := ⟨toDatum⟩

instance : FromDatum Argument := ⟨ofDatum?⟩

end Argument

namespace Construction

/-- The construction as a record. -/
def toDatum (c : Construction) : Datum :=
  .record <| [("id", .text c.id), ("class", .text c.className)] ++
    Datum.optionalField "factory" Factory.toDatum c.factory? ++
    [("singleton", .bool c.singleton), ("origin", c.origin.toDatum),
      ("args", .list (Argument.argsToDatum c.args))]

/-- The construction that a record stands for. -/
def ofDatum? (d : Datum) : Option Construction := do
  match ← d.columns? ["id", "class", "factory", "singleton", "origin", "args"] with
  | [id, className, factory?, singleton, origin, args] =>
    return {
      id := ← Datum.required Datum.text? id
      className := ← Datum.required Datum.text? className
      factory? := ← Datum.optional Factory.ofDatum? factory?
      singleton := ← Datum.required Datum.bool? singleton
      origin := ← Datum.required Origin.ofDatum? origin
      args :=
        ← Datum.defaulting [] (Datum.listOf (Binding.named? .json "value" Argument.ofDatum?)) args }
  | _ => none

end Construction

namespace ContainerPlan

/-- The plan as a record. -/
def toDatum (p : ContainerPlan) : Datum :=
  .record [("services", .list (p.services.map Construction.toDatum)),
    ("aliases", .list (p.aliases.map fun (a, t) => .list [.text a, .text t]))]

/-- The plan that a record stands for. -/
def ofDatum? (d : Datum) : Option ContainerPlan := do
  match ← d.columns? ["services", "aliases"] with
  | [services, aliases] =>
    return {
      services := ← Datum.required (Datum.listOf Construction.ofDatum?) services
      aliases :=
        ← Datum.defaulting [] (Datum.listOf (Datum.pairOf Datum.text? Datum.text?)) aliases }
  | _ => none

instance : ToDatum ContainerPlan := ⟨toDatum⟩

instance : FromDatum ContainerPlan := ⟨ofDatum?⟩

end ContainerPlan

end Wiring
