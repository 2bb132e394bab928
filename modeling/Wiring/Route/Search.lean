import Wiring.Decimal.Reader
import Wiring.Pattern.Reader
import Wiring.Plan.Router

/-!
# Finding the route of a request

The routes without captures come first. Then the trie of the verb is searched segment by segment:
literals before captures, each in the order in which they were entered, going back where a way ends.
A route whose captured values cannot be converted as its call wants is no match.
-/

namespace Wiring

/-- A route that was found, with the segments it captured. -/
structure RouteMatch where
  call : RouteCall
  params : List (String × String)
  deriving BEq, Repr, Inhabited

/-- Routes that can be searched: a plan all of whose patterns are patterns. -/
structure RouteMatcher where
  plan : RouterPlan
  /-- The patterns by their texts. -/
  patterns : List (String × Pattern)

namespace RouteMatch

/-- The first segment captured under a name. -/
def param? (m : RouteMatch) (name : String) : Option String :=
  m.params.lookup name

end RouteMatch

/-- Whether a captured segment can be converted to a kind. -/
def Primitive.accepts (k : Primitive) (value : String) : Bool :=
  match k with
  | .int => (Decimal.int64? value).isSome
  | .float => (Decimal.float? value).isSome
  | .bool => ["true", "false", "1", "0"].contains value
  | .string | .array => true

namespace RouteMatcher

/-- Adds the patterns of some texts; `none` if one of them is no pattern. -/
def collect? (done : List (String × Pattern)) : List String → Option (List (String × Pattern))
  | [] => some done
  | text :: rest =>
    if (done.lookup text).isSome then collect? done rest
    else match Pattern.ofText? (Route.anchored text) with
      | some p => collect? ((text, p) :: done) rest
      | none => none

/-- The plan with its patterns compiled; `none` if one of them is no pattern. -/
def ofPlan? (plan : RouterPlan) : Option RouteMatcher :=
  (collect? [] (plan.tries.flatMap fun (_, n) => n.patterns)).map (⟨plan, ·⟩)

/-- Whether every captured value that a call wants converted can be. -/
def converts (call : RouteCall) (params : List (String × String)) : Bool :=
  call.args.all fun arg =>
    match arg.source with
    | .captured (some kind) =>
      match params.lookup arg.name with
      | some value => kind.accepts value
      | none => false
    | _ => true

/-- Whether a capture with this pattern takes a segment. -/
def takes (patterns : List (String × Pattern)) (requirement? : Option String) (segment : String) :
    Bool :=
  match requirement? with
  | none => true
  | some text =>
    match patterns.lookup text with
    | some p => p.isMatch segment
    | none => false

/-- Goes on at a child for a literal if the segment is its text. -/
def throughLiteral? (go : RouteNode → Option RouteMatch) (segment : String) (child : RouteNode) :
    Option RouteMatch :=
  match child.key with
  | .literal text => if text = segment then go child else none
  | _ => none

/-- Goes on at a child for a capture if that takes the segment. -/
def throughCapture? (patterns : List (String × Pattern))
    (go : List (String × String) → RouteNode → Option RouteMatch) (segment : String)
    (params : List (String × String)) (child : RouteNode) : Option RouteMatch :=
  match child.key with
  | .capture name requirement? =>
    if takes patterns requirement? segment then go (params ++ [(name, segment)]) child else none
  | _ => none

/-- The first route below a node that fits the segments. The segments captured on the way down come
in order, and those of the route found are given back with it. -/
def search (patterns : List (String × Pattern)) :
    List String → List (String × String) → RouteNode → Option RouteMatch
  | [], params, n =>
    match n.call? with
    | some call => if converts call params then some ⟨call, params⟩ else none
    | none => none
  | segment :: rest, params, n =>
    match n.literals.findSome? (throughLiteral? (search patterns rest params) segment) with
    | some found => some found
    | none => n.captures.findSome? (throughCapture? patterns (search patterns rest) segment params)

/-- The call of the last route without captures at a place. -/
def static? (m : RouteMatcher) (verb : Verb) (path : String) : Option RouteCall :=
  (m.plan.statics.reverse.find? fun r => r.verb = verb && r.path = path).map (·.call)

/-- The route of a request. -/
def find? (m : RouteMatcher) (verb : Verb) (path : String) : Option RouteMatch :=
  match m.static? verb (Route.normalize path) with
  | some call => some ⟨call, []⟩
  | none => m.plan.trie? verb >>= search m.patterns (Route.segments path) []

/-- What the route of a request calls. -/
def target? (m : RouteMatcher) (verb : Verb) (path : String) : Option String :=
  (m.find? verb path).map (·.call.target)

end RouteMatcher

end Wiring
