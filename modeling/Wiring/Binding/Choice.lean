import Wiring.Descriptor.Parameter
import Wiring.Service.Entry

/-!
# Choosing the binding of a parameter

A binding declared for the parameter comes first. Then an environment hint with the default behind
it, the default itself, an injection hint with the chain by type behind it, and the chain by type.
The chain by type tries a hand-declared identifier equal to the parameter's name before its type;
a parameter without a class type goes by its name when that is known. A nullable parameter is left
out, or null, when nothing else gives it a value.
-/

namespace Wiring

/-- What the choice goes by: what is registered, and which identifiers were declared by hand. -/
structure BindingChoice where
  registered : ServiceMap
  manualIds : List String

/-- The binding that a default gives. -/
def DefaultValue.binding : DefaultValue → Binding
  | .literal v => .literal v
  | .constant r => .constant r

namespace BindingChoice

/-- Whether an identifier is registered and stands for one thing. -/
def isKnown (c : BindingChoice) (id : String) : Bool :=
  match c.registered.get? id with
  | some (.service _) | some (.alias _) => true
  | _ => false

/-- The links that name and type of a parameter give. -/
def links? (c : BindingChoice) (p : Parameter) : Option Binding :=
  let byName := c.manualIds.contains p.name
  match p.type.identifier? with
  | some type =>
    if byName && type ≠ p.name then some (.service p.name (some (.service type none)))
    else some (.service type none)
  | none => if byName || c.isKnown p.name then some (.service p.name none) else none

/-- The chain by type, at whose end a nullable parameter is left out. -/
def typeChain? (c : BindingChoice) (p : Parameter) : Option Binding :=
  (c.links? p).map fun links => if p.nullable then links.or .skip else links

/-- The null value for a parameter that may have it. -/
def nullBinding? (p : Parameter) : Option Binding :=
  if p.nullable then some (.literal .null) else none

/-- The chain of an injection hint. -/
def injected (c : BindingChoice) (p : Parameter) (id : String) : Binding :=
  match c.typeChain? p with
  | some chain => .service id (some chain)
  | none => .service id (if p.nullable then some .skip else none)

/-- The binding of a parameter, or `none` if it has none at all. -/
def choose? (c : BindingChoice) (overrides : List (String × Binding)) (p : Parameter) :
    Option Binding :=
  match overrides.lookup p.name with
  | some b => some b
  | none =>
    let default? := p.default?.map DefaultValue.binding
    match p.envHint? with
    | some key => some (.env key (default?.or (nullBinding? p)))
    | none =>
      match default? with
      | some b => some b
      | none =>
        match p.injectHint? with
        | some id => some (c.injected p id)
        | none => (c.typeChain? p).or (nullBinding? p)

/-- The bindings of all parameters, or the name of the first that has none. -/
def chooseAll (c : BindingChoice) (overrides : List (String × Binding)) :
    List Parameter → Except String (List (String × Binding))
  | [] => .ok []
  | p :: rest =>
    match c.choose? overrides p with
    | none => .error p.name
    | some b => (c.chooseAll overrides rest).map ((p.name, b) :: ·)

end BindingChoice

end Wiring
