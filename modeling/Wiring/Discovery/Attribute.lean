import Wiring.Decimal.Nearest
import Wiring.Descriptor.Class
import Wiring.Discovery.Default
import Wiring.Discovery.ParamType
import Wiring.Source.Read

/-!
# What attributes say

The attributes of types, methods and parameters, read as annotations, defaults and hints. An
attribute is known by the last name of its path.
-/

namespace Wiring.Source

namespace Attribute

/-- The name by which an attribute is known. -/
def name (a : Attribute) : String :=
  a.path.last

/-- Whether an attribute has nothing after its path. -/
def isBare (a : Attribute) : Bool :=
  match a.form with
  | .bare => true
  | _ => false

/-- Reads all that stands between the brackets after the path of an attribute. -/
def read {α : Type} (a : Attribute) (r : Grammar → Reader α) : Except Flaw α :=
  match a.form with
  | .list content => readTrees r content
  | _ => throw .malformed

end Attribute

namespace Reader

/-- Reads the path of an option, which may use keywords. -/
def optionPath : Reader Path := do
  let isRooted ← acceptSign "::"
  let first ← anyWord
  let rest ← manyWhile (.sign "::") (do sign "::"; anyWord)
  return { root := if isRooted then .rooted else .plain, names := first :: rest }

/-- Reads options with commas between them, one step for each, up to the end. There may be none. -/
def options {σ : Type} (step : σ → Path → Reader σ) (start : σ) : Reader σ := do
  if ← sees .nothing then return start else go (← remaining) start
where
  /-- At most so many options. -/
  go : Nat → σ → Reader σ
    | 0, _ => malformed
    | n + 1, s => do
      let s ← step s (← optionPath)
      if ← sees .nothing then return s
      else
        sign ","
        if ← sees .nothing then return s else go n s

end Reader

end Wiring.Source

namespace Wiring.Discovery

open Source Source.Reader

/-- The priority that an expression gives. -/
def priorityOf (e : Expr) : Reader Int32 :=
  match e.literal? with
  | some (.int n) =>
    if Decimal.isInt32 n.toInt then pure (Int32.ofInt n.toInt)
    else complain "priority out of range"
  | _ => complain "priority must be an integer"

/-- The options of a middleware. -/
def middlewareOptions (g : Grammar) : Reader Int32 :=
  options (fun _ path =>
    if path.isWord "priority" then do
      sign "="
      priorityOf (← g.expr true)
    else complain "unknown middleware option") 0

/-- The options of a service. -/
def serviceOptions : Reader Bool :=
  options (fun _ path =>
    if path.isWord "singleton" then pure true
    else if path.isWord "transient" then pure false
    else complain "expected \x60singleton\x60 or \x60transient\x60") true

/-- The options of a listener: the event, if it is named. -/
def listenerOptions : Reader (Option String) :=
  options (fun _ path =>
    if path.isWord "event" then do
      sign "="
      return some (← text)
    else pure (some path.last)) none

/-- Attributes of a type that say nothing about wiring. -/
def ignoredAttributes : List String :=
  ["derive", "doc", "allow", "cfg", "cfg_attr", "repr"]

/-- The annotation that an attribute of a type stands for. -/
def annotationOfType (a : Attribute) : Except Flaw (Option Annotation) :=
  match a.name with
  | "route_prefix" => return some (.routePrefix (← a.read fun _ => text))
  | "middleware" =>
    return some (.middleware (← if a.isBare then pure 0 else a.read middlewareOptions))
  | "service" =>
    return some (.service (← if a.isBare then pure true else a.read fun _ => serviceOptions))
  | name => return if ignoredAttributes.contains name then none else some (.other name)

/-- The annotations of a type. -/
def annotationsOfType (as : List Attribute) : Except Flaw (List Annotation) :=
  return (← as.mapM annotationOfType).filterMap id

/-- Whether attributes derive the capability of errors. -/
def derivesError (as : List Attribute) : Bool :=
  as.any fun a =>
    a.path.isWord "derive" &&
      match a.read fun g => commaSeparated ((·.last) <$> g.plainPath false) with
      | .ok names => names.contains "Error"
      | .error _ => false

/-- A flaw in what was read just now: where the text ends there, that is what is wrong. -/
def complainHere {α : Type} (text : String) : Reader α := do
  if ← sees .nothing then malformed else complain text

/-- What is read of a route after its path. -/
structure RouteOptions where
  requirements : List (String × String) := []
  name? : Option String := none

/-- The method of a route, as a text or as a name. -/
def routeMethod : Reader String := do
  if ← sees .text then text else name

/-- One requirement of a route. -/
def routeRequirement : Reader (String × String) := do
  let param ← name
  sign "="
  return (param, ← text)

/-- The options of a route. -/
def routeOptions : Nat → RouteOptions → Reader RouteOptions
  | 0, o => do if ← sees .nothing then return o else malformed
  | n + 1, o => do
    if ← sees .nothing then return o
    else
      sign ","
      if ← sees .nothing then return o
      else
        match ← name with
        | "requirements" =>
          let more ← group .parenthesis (commaSeparated routeRequirement)
          routeOptions n { o with requirements := o.requirements ++ more }
        | "name" =>
          sign "="
          routeOptions n { o with name? := some (← text) }
        | _ => complain "unknown route option"

/-- The arguments of a route. -/
def routeArguments : Reader Annotation := do
  let method ← routeMethod
  match Verb.ofName? method with
  | none => complainHere s!"unknown HTTP method '{method}'"
  | some verb =>
    sign ","
    let path ← text
    let o ← routeOptions (← remaining) {}
    return .route verb path o.requirements o.name?

/-- The annotation that an attribute of a method stands for. A listener that does not name its event
takes the given one. -/
def annotationOfMethod (firstType? : Option String) (a : Attribute) :
    Except Flaw (Option Annotation) :=
  match a.name with
  | "route" => return some (← a.read fun _ => routeArguments)
  | "listener" => do
    let named ← if a.isBare then pure none else a.read fun _ => listenerOptions
    match named.or firstType? with
    | some event => return some (.listener event)
    | none => throw (.complaint "listener needs an event type")
  | _ => return none

/-- The identifier of a service, as a text or as a path. -/
def serviceName (g : Grammar) : Reader String := do
  if ← sees .text then text else return (← g.plainPath false).last

/-- A parameter with what an attribute says about it, in a type with the given name. -/
def withAttribute (owner : String) (p : Parameter) (a : Attribute) : Except Flaw Parameter :=
  match a.name with
  | "default" => do
    match (← a.read (·.expr true)).default? owner with
    | some value => return { p with default? := some value }
    | none => throw (.complaint "default must be a literal or a constant")
  | "env" => return { p with hints := p.hints ++ [.env (← a.read fun _ => text)] }
  | "inject" => return { p with hints := p.hints ++ [.inject (← a.read serviceName)] }
  | _ => return p

/-- The parameters of a function, in a type with the given name. What a method is called on is none
of them, and one without a name is named by its position. -/
def parameters (owner : String) (params : List Param) : Except Flaw (List Parameter) := do
  let typed := params.filterMap fun p =>
    match p.form with
    | .typed name? type => some (p.attributes, name?, type)
    | _ => none
  typed.zipIdx.mapM fun ((attributes, name?, type), i) => do
    let (type, nullable) := type.paramType
    attributes.foldlM (withAttribute owner)
      { name := name?.getD s!"arg{i}", type, nullable }

end Wiring.Discovery
