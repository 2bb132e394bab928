import Wiring.Http.Verb
import Wiring.Marker.Basic
import Wiring.Route.Path

/-!
# The mark of a route

The arguments of a route are its method, its path and options. The path has to be a template whose
captures have names of their own, and each requirement has to belong to one of them.
-/

namespace Wiring.Marker.Route

open Source Source.Reader

/-- The arguments of a route mark. -/
structure Arguments where
  /-- The method in capital letters. -/
  method : String
  path : String
  requirements : List (String × String) := []
  name? : Option String := none
  deriving DecidableEq, Repr

/-- The method of a route in capital letters. -/
def method : Reader String := do
  let name := (← Discovery.routeMethod).toUpper
  if Verb.all.any (·.name == name) then return name
  else
    let names := ", ".intercalate (Verb.all.map Verb.name)
    complain s!"unknown HTTP method '{name}', expected one of {names}"

/-- Requirements; commas between them may be left out. -/
def requirements : Reader (List (String × String)) :=
  manyWhile (.no .nothing) do
    let r ← Discovery.routeRequirement
    let _ ← acceptSign ","
    return r

/-- The options of a route. -/
def options : Nat → Arguments → Reader Arguments
  | 0, a => do if ← sees .nothing then return a else malformed
  | n + 1, a => do
    if ← sees .nothing then return a
    else
      sign ","
      if ← sees .nothing then return a
      else
        match ← name with
        | "requirements" =>
          let more ← group .parenthesis requirements
          options n { a with requirements := a.requirements ++ more }
        | "name" =>
          sign "="
          options n { a with name? := some (← text) }
        | key => complain s!"unknown route option '{key}', expected 'requirements' or 'name'"

/-- All arguments of a route. -/
def arguments : Reader Arguments := do
  let method ← method
  sign ","
  let path ← text
  options (← remaining) { method, path }

/-- What stands between braces that enclose a whole segment. -/
def enclosed? (segment : String) : Option String :=
  match segment.toList with
  | '{' :: rest =>
    match rest.reverse with
    | '}' :: name => some (String.ofList name.reverse)
    | _ => none
  | _ => none

/-- Whether a text has a brace. -/
def hasBrace (s : String) : Bool :=
  s.toList.any fun c => c == '{' || c == '}'

/-- The names captured so far, and by one more segment. -/
def addCapture (names : List String) (segment : String) : Except Flaw (List String) :=
  match enclosed? segment with
  | some name =>
    if name.isEmpty || hasBrace name || names.contains name then
      throw (.complaint s!"invalid or duplicate parameter '\x7b{name}\x7d'")
    else return names ++ [name]
  | none =>
    if hasBrace segment then throw (.complaint s!"malformed path segment '{segment}'")
    else return names

/-- The names that the path of a route captures. -/
def captures (path : String) : Except Flaw (List String) := do
  if !startsWithSlash path then throw (.complaint "route path must start with '/'")
  (Wiring.Route.segments path).foldlM addCapture []

/-- Checks the arguments of a route for what belongs together. -/
def check (a : Arguments) : Except Flaw Unit := do
  let names ← captures a.path
  for (param, _) in a.requirements do
    if !names.contains param then
      throw (.complaint s!"requirement for '{param}' which is not a path parameter")
  if a.name? == some "" then throw (.complaint "route name is empty")

/-- The mark of a route. -/
def mark (trees item : List Tree) : Except Flaw (List Tree) := do
  let a ← whole arguments trees
  check a
  functionItem item

end Wiring.Marker.Route

namespace Wiring.Marker

/-- A mark: it takes its arguments and what it is put on, and gives back what is left. -/
abbrev Mark : Type :=
  (arguments item : List Source.Tree) → Except Source.Flaw (List Source.Tree)

/-- All marks by their names. -/
def marks : List (String × Mark) :=
  [("route", Route.mark), ("route_prefix", routePrefix), ("middleware", middleware),
    ("listener", listener), ("service", service), ("constructor", constructor)]

end Wiring.Marker
