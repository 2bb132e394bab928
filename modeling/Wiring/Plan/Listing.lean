import Wiring.Binding.Listing
import Wiring.Plan.Container
import Wiring.Plan.Router

/-!
# Plans as listings show them

One line for each service, for each of its arguments, for each alias and for each route.
-/

namespace Wiring

namespace Argument

mutual

/-- An argument with the names of its cases and fields. -/
def inspect : Argument → String
  | literal v => Text.withFields "Literal" [("value", v.inspect)]
  | constant r => Text.withFields "Constant" [("reference", Text.quoted r)]
  | env key fallback =>
    Text.withFields "Env" [("key", Text.quoted key), ("fallback", inspectFallback fallback)]
  | service id => Text.withFields "Service" [("id", Text.quoted id)]
  | array entries => Text.withFields "Array" [("entries", Text.bracketed (inspectEntries entries))]
  | closure source args =>
    Text.withFields "Closure"
      [("source", Text.quoted source), ("args", Text.bracketed (inspectArgs args))]

/-- The argument that stands in for a missing variable. -/
def inspectFallback : Option Argument → String
  | none => Text.present none
  | some a => Text.present (some a.inspect)

/-- The entries of an array. -/
def inspectEntries : List (Option ArrayKey × Argument) → List String
  | [] => []
  | (key, a) :: rest =>
    Text.withFields "ArrayArgument"
      [("key", Text.present (key.map ArrayKey.inspect)), ("value", a.inspect)] ::
      inspectEntries rest

/-- The arguments of a closure. -/
def inspectArgs : List (String × Argument) → List String
  | [] => []
  | (name, a) :: rest =>
    Text.withFields "NamedArgument" [("name", Text.quoted name), ("value", a.inspect)] ::
      inspectArgs rest

end

end Argument

namespace Origin

/-- Where a service comes from, in words. -/
def words : Origin → String
  | discovered => "discovered"
  | manual => "manual"
  | builtin .container => "builtin container"
  | builtin .config => "builtin config"

end Origin

namespace Construction

/-- What builds the service: its factory, or its class. -/
def via (c : Construction) : String :=
  match c.factory? with
  | some f => f.owner ++ "::" ++ f.method
  | none => c.className

/-- How long an instance lives. -/
def lifetime (c : Construction) : String :=
  if c.singleton then "singleton" else "transient"

/-- The lines of a service: how it is built, then its arguments. -/
def listing (c : Construction) : List String :=
  (c.id ++ " " ++ c.via ++ " [" ++ c.lifetime ++ ", " ++ c.origin.words ++ "]") ::
    c.args.map fun (name, a) => "    " ++ name ++ " = " ++ a.inspect

end Construction

namespace ContainerPlan

/-- The lines of a container: all services, then the aliases below an empty line. -/
def listing (p : ContainerPlan) : List String :=
  p.services.flatMap Construction.listing ++
    if p.aliases.isEmpty then []
    else "" :: p.aliases.map fun (a, target) => a ++ " -> " ++ target

end ContainerPlan

namespace RouterPlan

/-- A text with blanks up to a width. -/
def padded (width : Nat) (s : String) : String :=
  s ++ String.ofList (List.replicate (width - s.length) ' ')

/-- The width of the column of templates: the longest of them, in bytes. -/
def templateWidth (routes : List (Verb × RouteCall)) : Nat :=
  routes.foldl (fun n (_, call) => max n call.path.utf8ByteSize) 0

/-- The line of a route. -/
def routeLine (width : Nat) (verb : Verb) (call : RouteCall) : String :=
  let name := match call.name? with
    | some name => " (" ++ name ++ ")"
    | none => ""
  verb.name ++ " " ++ padded width call.path ++ "  " ++ call.target ++ name

/-- The lines of a router: its routes in their order. -/
def listing (p : RouterPlan) : List String :=
  let width := templateWidth p.routes
  p.routes.map fun (verb, call) => routeLine width verb call

end RouterPlan

end Wiring
