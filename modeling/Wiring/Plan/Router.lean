import Wiring.Descriptor.Parameter
import Wiring.Http.Verb
import Wiring.Route.Path

/-!
# Router plans

Routes without captures stand in a list with their normalized path. All others are in a trie per
verb: a node has children for literal texts and children for captures, told apart by name and
pattern.
-/

namespace Wiring

/-- Where a parameter of a route target gets its value. -/
inductive RouteArgSource where
  /-- The captured segment of the parameter's name, converted if a kind is given. -/
  | captured (coerce? : Option Primitive)
  | request
  | default (value : DefaultValue)
  | service (id : String)
  deriving BEq, Repr, Inhabited

/-- A parameter of a route target. -/
structure RouteArg where
  name : String
  source : RouteArgSource
  deriving BEq, Repr, Inhabited

/-- What a route calls. -/
structure RouteCall where
  className : String
  method : String
  /-- The identifier of the object that has the method; a static method needs none. -/
  service? : Option String := none
  args : List RouteArg := []
  /-- The template of the route. -/
  path : String
  name? : Option String := none
  deriving BEq, Repr, Inhabited

/-- What a node of a trie stands for. -/
inductive RouteKey where
  | root
  | literal (text : String)
  | capture (name : String) (requirement? : Option String)
  deriving DecidableEq, Repr, Inhabited

/-- A trie of routes. -/
inductive RouteNode where
  | node (segment : Nat) (key : RouteKey) (literals captures : List RouteNode)
      (call? : Option RouteCall)
  deriving Repr, Inhabited

/-- A route without captures. -/
structure StaticRoute where
  verb : Verb
  path : String
  call : RouteCall
  deriving BEq, Repr, Inhabited

/-- All routes. -/
structure RouterPlan where
  statics : List StaticRoute := []
  /-- One trie per verb, in the order of the verbs. -/
  tries : List (Verb × RouteNode) := []
  deriving Repr, Inhabited

namespace RouteCall

/-- What the route calls, as `Class::method`. -/
def target (c : RouteCall) : String :=
  c.className ++ "::" ++ c.method

end RouteCall

namespace RouteKey

/-- The key of a segment of a template whose captures have these patterns. -/
def ofSegment (requirements : List (String × String)) : Route.Segment → RouteKey
  | .literal text => literal text
  | .capture name => capture name (requirements.lookup name)

end RouteKey

namespace RouteNode

/-- The number of segments above a node. -/
def segment : RouteNode → Nat
  | node s _ _ _ _ => s

/-- What the node stands for. -/
def key : RouteNode → RouteKey
  | node _ k _ _ _ => k

/-- The children for literal texts. -/
def literals : RouteNode → List RouteNode
  | node _ _ l _ _ => l

/-- The children for captures. -/
def captures : RouteNode → List RouteNode
  | node _ _ _ c _ => c

/-- The call of the route that ends here. -/
def call? : RouteNode → Option RouteCall
  | node _ _ _ _ c => c

/-- A node without children. -/
def leaf (segment : Nat) (key : RouteKey) : RouteNode :=
  node segment key [] [] none

/-- The empty trie. -/
def root : RouteNode :=
  leaf 0 .root

/-- Changes the first child with a key, or adds it at the end and changes that. -/
def updateChild (segment : Nat) (key : RouteKey)
    (change : RouteNode → RouteNode × Option RouteCall) :
    List RouteNode → List RouteNode × Option RouteCall
  | [] =>
    let (child, replaced) := change (leaf segment key)
    ([child], replaced)
  | child :: rest =>
    if child.key = key then
      let (child, replaced) := change child
      (child :: rest, replaced)
    else
      let (rest, replaced) := updateChild segment key change rest
      (child :: rest, replaced)

/-- Puts a call at the end of a template, and gives back the call that was there. -/
def insert (n : RouteNode) (requirements : List (String × String)) (call : RouteCall) :
    List Route.Segment → RouteNode × Option RouteCall
  | [] => (node n.segment n.key n.literals n.captures (some call), n.call?)
  | first :: rest =>
    let key := RouteKey.ofSegment requirements first
    let change (child : RouteNode) := child.insert requirements call rest
    if first.isLiteral then
      let (literals, replaced) := updateChild (n.segment + 1) key change n.literals
      (node n.segment n.key literals n.captures n.call?, replaced)
    else
      let (captures, replaced) := updateChild (n.segment + 1) key change n.captures
      (node n.segment n.key n.literals captures n.call?, replaced)

mutual

/-- The calls of a trie: a node's own first, then those below its literals, then its captures. -/
def calls : RouteNode → List RouteCall
  | node _ _ literals captures call? => call?.toList ++ callsOf literals ++ callsOf captures

/-- The calls of some tries. -/
def callsOf : List RouteNode → List RouteCall
  | [] => []
  | n :: rest => n.calls ++ callsOf rest

end

mutual

/-- The patterns of a trie, in the order of its calls. -/
def patterns : RouteNode → List String
  | node _ key literals captures _ =>
    (match key with
      | .capture _ (some pattern) => [pattern]
      | _ => []) ++ patternsOf literals ++ patternsOf captures

/-- The patterns of some tries. -/
def patternsOf : List RouteNode → List String
  | [] => []
  | n :: rest => n.patterns ++ patternsOf rest

end

end RouteNode

namespace RouterPlan

/-- The trie of a verb. -/
def trie? (p : RouterPlan) (v : Verb) : Option RouteNode :=
  p.tries.lookup v

/-- Tries with the one for a verb replaced or added in the order of the verbs. -/
def placeTrie (v : Verb) (n : RouteNode) : List (Verb × RouteNode) → List (Verb × RouteNode)
  | [] => [(v, n)]
  | (w, m) :: rest =>
    if v = w then (v, n) :: rest
    else if v.ctorIdx < w.ctorIdx then (v, n) :: (w, m) :: rest
    else (w, m) :: placeTrie v n rest

/-- All routes with their verbs: those without captures first. -/
def routes (p : RouterPlan) : List (Verb × RouteCall) :=
  p.statics.map (fun r => (r.verb, r.call)) ++
    p.tries.flatMap fun (v, n) => n.calls.map (v, ·)

/-- The number of routes. -/
def size (p : RouterPlan) : Nat :=
  p.routes.length

/-- Whether there is neither a route without captures nor a trie. -/
def isEmpty (p : RouterPlan) : Bool :=
  p.statics.isEmpty && p.tries.isEmpty

end RouterPlan

/-! ## Data trees -/

namespace RouteArgSource

/-- The fields that say where a value comes from. -/
def fields : RouteArgSource → List (String × Datum)
  | captured coerce? =>
    [("from", .text "captured")] ++ Datum.optionalField "coerce" ToDatum.toDatum coerce?
  | request => [("from", .text "request")]
  | default value => [("from", .text "default"), ("value", value.toDatum)]
  | service id => [("from", .text "service"), ("id", .text id)]

/-- The names of the cases. -/
def cases : List String :=
  ["captured", "request", "default", "service"]

/-- The source that the fields of a record describe. They are put aside, since the record has other
fields as well. -/
def ofDatum? (d : Datum) : Option RouteArgSource := do
  let style := Datum.Style.json.aside
  match ← d.tagged? style "from" cases with
  | "captured" =>
    match ← d.columns? ["coerce"] with
    | [coerce?] => return .captured (← Datum.optional (Primitive.ofDatum? style) coerce?)
    | _ => none
  | "request" => return .request
  | "default" =>
    match ← d.columns? ["value"] with
    | [value] => return .default (← Datum.required (DefaultValue.ofDatum? style) value)
    | _ => none
  | "service" =>
    match ← d.columns? ["id"] with
    | [id] => return .service (← Datum.required Datum.text? id)
    | _ => none
  | _ => none

end RouteArgSource

namespace RouteArg

/-- The parameter as a record that also holds the fields of its source. -/
def toDatum (a : RouteArg) : Datum :=
  .record ([("name", .text a.name)] ++ a.source.fields)

/-- The parameter that a record stands for. -/
def ofDatum? (d : Datum) : Option RouteArg := do
  match d with
  | .record _ =>
    match ← d.columns? ["name"] with
    | [name] => return ⟨← Datum.required Datum.text? name, ← RouteArgSource.ofDatum? d⟩
    | _ => none
  | _ => none

end RouteArg

namespace RouteCall

/-- The call as a record. -/
def toDatum (c : RouteCall) : Datum :=
  .record <| [("class", .text c.className), ("method", .text c.method)] ++
    Datum.optionalField "service" .text c.service? ++
    [("args", .list (c.args.map RouteArg.toDatum)), ("path", .text c.path)] ++
    Datum.optionalField "name" .text c.name?

/-- The call that a record stands for. -/
def ofDatum? (d : Datum) : Option RouteCall := do
  match ← d.columns? ["class", "method", "service", "args", "path", "name"] with
  | [className, method, service?, args, path, name?] =>
    return {
      className := ← Datum.required Datum.text? className
      method := ← Datum.required Datum.text? method
      service? := ← Datum.optional Datum.text? service?
      args := ← Datum.defaulting [] (Datum.listOf RouteArg.ofDatum?) args
      path := ← Datum.required Datum.text? path
      name? := ← Datum.optional Datum.text? name? }
  | _ => none

end RouteCall

namespace RouteKey

/-- The key as a record. -/
def toDatum : RouteKey → Datum
  | root => .record [("type", .text "root")]
  | literal text => .record [("type", .text "literal"), ("text", .text text)]
  | capture name requirement? =>
    .record ([("type", .text "capture"), ("name", .text name)] ++
      Datum.optionalField "requirement" .text requirement?)

/-- The names of the cases. -/
def cases : List String :=
  ["root", "literal", "capture"]

/-- The key that a record stands for. -/
def ofDatum? (d : Datum) : Option RouteKey := do
  match ← d.tagged? .json "type" cases with
  | "root" => (d.columns? ["type"]).map fun _ => .root
  | "literal" =>
    match ← d.columns? ["type", "text"] with
    | [_, text] => return .literal (← Datum.required Datum.text? text)
    | _ => none
  | "capture" =>
    match ← d.columns? ["type", "name", "requirement"] with
    | [_, name, requirement?] =>
      return .capture (← Datum.required Datum.text? name)
        (← Datum.optional Datum.text? requirement?)
    | _ => none
  | _ => none

end RouteKey

namespace RouteNode

/-- A list field of trees that is written only when it has items. -/
def childField (name : String) : List Datum → List (String × Datum)
  | [] => []
  | items => [(name, .list items)]

mutual

/-- The trie as a record. -/
def toDatum : RouteNode → Datum
  | node segment key literals captures call? =>
    .record ([("segment", .int segment), ("key", key.toDatum)] ++
      childField "literals" (listToDatum literals) ++
      childField "captures" (listToDatum captures) ++
      Datum.optionalField "call" RouteCall.toDatum call?)

/-- Some tries as records. -/
def listToDatum : List RouteNode → List Datum
  | [] => []
  | n :: rest => n.toDatum :: listToDatum rest

end

/-- A number of 64 bits without sign. -/
def natOf? (d : Datum) : Option Nat :=
  (d.intBetween? 0 0xFFFFFFFFFFFFFFFF).map Int.toNat

/-- The trie that a record stands for, read down to a depth. -/
def ofDatumTo? : (depth : Nat) → Datum → Option RouteNode
  | 0, _ => none
  | depth + 1, d => do
    match ← d.columns? ["segment", "key", "literals", "captures", "call"] with
    | [segment, key, literals, captures, call?] =>
      return .node (← Datum.required natOf? segment) (← Datum.required RouteKey.ofDatum? key)
        (← Datum.defaulting [] (Datum.listOf (ofDatumTo? depth)) literals)
        (← Datum.defaulting [] (Datum.listOf (ofDatumTo? depth)) captures)
        (← Datum.optional RouteCall.ofDatum? call?)
    | _ => none

/-- The trie that a record stands for. -/
def ofDatum? (d : Datum) : Option RouteNode :=
  ofDatumTo? d.height d

end RouteNode

namespace StaticRoute

/-- The route as a record. -/
def toDatum (r : StaticRoute) : Datum :=
  .record [("method", ToDatum.toDatum r.verb), ("path", .text r.path), ("call", r.call.toDatum)]

/-- The route that a record stands for. -/
def ofDatum? (d : Datum) : Option StaticRoute := do
  match ← d.columns? ["method", "path", "call"] with
  | [verb, path, call] =>
    return {
      verb := ← Datum.required (Verb.ofDatum? .json) verb
      path := ← Datum.required Datum.text? path
      call := ← Datum.required RouteCall.ofDatum? call }
  | _ => none

end StaticRoute

namespace RouterPlan

/-- The plan as a record. -/
def toDatum (p : RouterPlan) : Datum :=
  .record [("statics", .list (p.statics.map StaticRoute.toDatum)),
    ("tries", .record (p.tries.map fun (v, n) => (v.name, n.toDatum)))]

/-- The tries of a record with a field per verb; the last field of a verb counts. -/
def tries? : Datum → Option (List (Verb × RouteNode))
  | .record fields =>
    fields.foldlM (fun done (name, d) => do
      return placeTrie (← Verb.ofToken? name) (← RouteNode.ofDatum? d) done) []
  | _ => none

/-- The plan that a record stands for. -/
def ofDatum? (d : Datum) : Option RouterPlan := do
  match ← d.columns? ["statics", "tries"] with
  | [statics, tries] =>
    return {
      statics := ← Datum.required (Datum.listOf StaticRoute.ofDatum?) statics
      tries := ← Datum.required tries? tries }
  | _ => none

instance : ToDatum RouterPlan := ⟨toDatum⟩

instance : FromDatum RouterPlan := ⟨ofDatum?⟩

end RouterPlan

end Wiring
