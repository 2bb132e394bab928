import Wiring.Decimal.Nearest
import Wiring.Marker.Function

/-!
# Marks on types and functions

A mark is an attribute that is checked where it stands. It adds nothing: what it is put on is given
back, and the mark is read again when the classes of a project are discovered.
-/

namespace Wiring.Marker

open Source Source.Reader

/-- What a mark may be put on if it is one for types, as written. -/
def typeItem (marker : String) (item : List Tree) : Except Flaw (List Tree) := do
  match ← readItem item with
  | (.struct .., trees) | (.enum, trees) => return trees
  | _ => throw (.complaint s!"#[{marker}] can only be used on a struct or an enum")

/-- The whole number that an expression writes. -/
def integer? : Expr → Option Int
  | .literal (.natural n) => if Decimal.isInt64 n then some n else none
  | .negated e => (integer? e).map fun n => -n
  | .parenthesized e => integer? e
  | _ => none

/-- The options of a middleware mark. -/
def middlewareOptions (g : Grammar) : Reader Unit :=
  options (fun _ path =>
    if path.isWord "priority" then do
      sign "="
      match integer? (← g.expr true) with
      | some n => if !Decimal.isInt32 n then complain "priority out of range"
      | none => complain "priority must be an integer"
    else complain "unknown middleware option, expected \x60priority\x60") ()

/-- The mark of a middleware. -/
def middleware (arguments item : List Tree) : Except Flaw (List Tree) := do
  readTrees middlewareOptions arguments
  typeItem "middleware" item

/-- How many options of a service mark are given. -/
def serviceOptions : Reader Nat :=
  options (fun n path =>
    if path.isWord "singleton" || path.isWord "transient" then pure (n + 1)
    else complain "expected \x60singleton\x60 or \x60transient\x60") 0

/-- The mark of a service. -/
def service (arguments item : List Tree) : Except Flaw (List Tree) := do
  let n ← whole serviceOptions arguments
  if 1 < n then
    throw (.complaint "\x60singleton\x60 and \x60transient\x60 are exclusive")
  typeItem "service" item

/-- Whether a text starts with a slash. -/
def startsWithSlash (s : String) : Bool :=
  s.toList.head? == some '/'

/-- The mark of a path in front of all routes of a type. -/
def routePrefix (arguments item : List Tree) : Except Flaw (List Tree) := do
  let path ← whole text arguments
  if !startsWithSlash path then throw (.complaint "route prefix must start with '/'")
  typeItem "route_prefix" item

/-- The options of a listener mark. -/
def listenerOptions : Reader Unit :=
  options (fun _ path => do
    if path.isWord "event" then
      sign "="
      if (← text).isEmpty then complain "event type is empty") ()

/-- The mark of a listener. -/
def listener (arguments item : List Tree) : Except Flaw (List Tree) := do
  whole listenerOptions arguments
  let f ← readFunction item
  if !f.signature.params.any Param.isTyped then
    throw (.complaint "a listener takes the event as its first parameter")
  functionItem item

/-- The mark of a constructor. -/
def constructor (arguments item : List Tree) : Except Flaw (List Tree) := do
  if !arguments.isEmpty then throw (.complaint "#[constructor] takes no arguments")
  let f ← readFunction item
  if f.signature.params.head?.any Param.isReceiver then
    throw (.complaint "a constructor is an associated function without \x60self\x60")
  functionItem item

end Wiring.Marker
