import Wiring.Source.Literal
import Wiring.Source.Reader
import Wiring.Source.Syntax

/-!
# Readers that need each other

Types hold bounds and expressions, expressions hold types, patterns and statements, and so on. A
`Grammar` is a reader for each of these kinds, and the readers for paths, attributes, generic
parameters and the rest take the grammar to use for what is nested inside them.
-/

namespace Wiring.Source

/-- What a bound may be besides a trait or a lifetime. -/
structure BoundRules where
  /-- It may name what is captured. -/
  allowsCapture : Bool := false
  /-- It may hold only where the trait can be used in constants. -/
  allowsConditional : Bool := false

namespace BoundRules

/-- Bounds of trait objects. -/
def strict : BoundRules := {}

/-- Bounds of parameters, traits and conditions. -/
def conditional : BoundRules := { allowsConditional := true }

/-- Bounds of types that are known by their traits alone. -/
def capturing : BoundRules := { allowsCapture := true, allowsConditional := true }

end BoundRules

/-- A reader for each kind of syntax that nests. -/
structure Grammar where
  /-- Reads a type; bounds may be added with a plus sign if that is allowed. -/
  type : (allowsPlus : Bool) → Reader Ty
  /-- Reads a bound of a type. -/
  bound : BoundRules → Reader Bound
  /-- Reads a single pattern. -/
  pattern : Reader PatternForm
  /-- Reads an operand of an expression; a record may be written out if that is allowed. -/
  operand : (allowsRecord : Bool) → Reader Expr
  /-- Reads an expression; a record may be written out if that is allowed. -/
  expr : (allowsRecord : Bool) → Reader Expr
  /-- Reads an expression that ends after a block, unless a point or a question mark follows. -/
  body : Reader Expr
  /-- Reads the statements of a block to its end. -/
  statements : Reader Unit
  /-- Reads a declaration. -/
  item : Reader Item

namespace Reader

/-- Takes a literal; a minus sign may stand in front of a number. -/
def anyLiteral : Reader Unit := do
  if ← sees .literal then
    if ← sees (.sign "-") then skip 2 else skip 1
  else malformed

/-- Passes over a tree and writes positions for it, with points between them. -/
def writePositions (positions : List Nat) : Reader Unit := do
  let number (n : Nat) : Tree := .leaf (.literal (toString n) (.natural n))
  drop 1
  write ((positions.map number).intersperse (signTree '.'))

/-- Takes a position: a whole number without a suffix. It is written in decimal digits. -/
def position : Reader Unit := do
  match (← get).rest with
  | .leaf (.literal text (.natural _)) :: _ =>
    match Literal.position? text with
    | some n => writePositions [n]
    | none => malformed
  | _ => malformed

/-- Takes the name of a field or its position, and says whether it is a name. -/
def member : Reader Bool := do
  if ← sees .name then
    skip 1
    return true
  else
    position
    return false

end Reader

namespace Look

/-- A colon that is not the sign between names. -/
def colon : Look := both (sign ":") (no (sign "::"))

/-- A start of a path other than a name. -/
def pathStart : Look :=
  any [sign "::", sign "<", words ["self", "Self", "super", "crate"]]

/-- A single point. -/
def point : Look := both (sign ".") (no (sign ".."))

/-- The mark of a call that is expanded: an exclamation mark that is not part of a comparison. -/
def expansion : Look := both (sign "!") (no (sign "!="))

/-- The name of something that the language itself provides, with the sign after it. -/
def builtin : Look := both (word "builtin") (after 1 (sign "#"))

/-- Generic parameters, and not a type in angle brackets that a path starts with. -/
def generics : Look :=
  both (sign "<") (any
    [after 1 (sign ">"), after 1 (sign "#"), after 1 (word "const"),
     both (after 1 (any [name, lifetime])) (after 2 (any [colon, sign ",", sign ">", sign "="]))])

end Look

namespace Grammar

open Reader

/-- Puts names with their arguments together to a path. -/
def pathOf (root : PathRoot) (before : List String)
    (segments : List (String × Option (List Ty))) : Path :=
  let last := segments.getLast?.bind (·.2)
  { root, names := before ++ segments.map (·.1), arguments := last.getD []
    isGeneric := segments.any fun s => s.2.isSome
    endsGeneric := last.isSome }

/-- Words of a path besides names. -/
def pathWords : List String :=
  ["super", "self", "Self", "crate"]

/-- Reads a path without arguments, as in an attribute. -/
def modulePath : Reader Path := do
  let isRooted ← acceptSign "::"
  let first ← pathWord
  let rest ← manyWhile (.sign "::") (do sign "::"; pathWord)
  return { root := if isRooted then .rooted else .plain, names := first :: rest }
where
  /-- One word of such a path. -/
  pathWord : Reader String := do
    if ← sees (.any [.name, .words pathWords]) then anyWord else malformed

/-- Reads a block without attributes of its own. -/
def block (g : Grammar) : Reader Unit := group .brace g.statements

/-- Reads the value of an attribute after its equals sign. -/
def attributeValue (g : Grammar) : Reader Unit := do
  if ← sees (.both (.sign "#") (.after 1 (.group .bracket))) then malformed
  else discard (g.expr true)

/-- Reads what stands between the brackets of an attribute. -/
def attributeContent (g : Grammar) : Reader (Path × AttributeForm) := do
  let path ←
    if ← acceptWord "unsafe" then pure { root := .plain, names := ["unsafe"] } else modulePath
  if ← sees .anyGroup then return (path, .list (← anyGroup).2)
  else if ← acceptSign "=" then
    attributeValue g
    return (path, .value)
  else return (path, .bare)

/-- Reads an attribute after the signs in front of it. -/
def singleAttribute (g : Grammar) (signs : Nat) : Reader Attribute := do
  let ((path, form), trees) ← captured (do skip signs; group .bracket (attributeContent g))
  write trees
  return { path, form, trees }

/-- Reads attributes. -/
def attributes (g : Grammar) : Reader (List Attribute) :=
  manyWhile (.sign "#") (singleAttribute g 1)

/-- Reads attributes of what surrounds them. -/
def innerAttributes (g : Grammar) : Reader (List Attribute) :=
  manyWhile (.both (.sign "#") (.after 1 (.sign "!"))) (singleAttribute g 2)

/-- Reads a block that may start with attributes. -/
def openBlock (g : Grammar) : Reader (List Attribute) :=
  group .brace do
    let inner ← innerAttributes g
    g.statements
    return inner

/-- Reads an argument that is a value: a literal, a name or a block. -/
def valueArgument (g : Grammar) : Reader Unit := do
  if ← sees .literal then anyLiteral
  else if ← sees .name then skip 1
  else discard (openBlock g)

/-- What may stand between angle brackets after a name. -/
inductive GenericArgument where
  | lifetime
  | type (t : Ty)
  /-- A value, or something said of an associated name. -/
  | other

/-- Whether an argument is a lifetime. -/
def GenericArgument.isLifetime : GenericArgument → Bool
  | lifetime => true
  | _ => false

/-- The type that an argument is. -/
def GenericArgument.type? : GenericArgument → Option Ty
  | type t => some t
  | _ => none

/-- Reads one argument between angle brackets. -/
def genericArgument (g : Grammar) : Reader GenericArgument := do
  let value : Look := .any [.literal, .group .brace]
  if ← sees (.both .lifetime (.no (.after 1 (.sign "+")))) then
    skip 1
    return .lifetime
  else if ← sees value then
    valueArgument g
    return .other
  else
    let type ← g.type true
    match type with
    | .path .plain [_] _ =>
      if ← acceptSign "=" then
        if ← sees value then valueArgument g else discard (g.type true)
        return .other
      else if ← acceptSign ":" then
        discard (separatedWhile (.any [.sign ",", .sign ">"]) "+" (g.bound .conditional))
        return .other
      else return .type type
    | _ => return .type type

/-- Reads arguments between angle brackets and gives the types among them. -/
def genericArguments (g : Grammar) : Reader (List Ty) :=
  return (← angled (·.isLifetime) (genericArgument g)).filterMap (·.type?)

/-- Reads one name of a path with its arguments. In an expression arguments need the sign between
names in front of them. -/
def segment (g : Grammar) (inExpr : Bool) : Reader (String × Option (List Ty)) := do
  if ← sees (.words ["super", "self", "crate", "try"]) then return (← anyWord, none)
  else
    let name ← if ← sees (.word "Self") then anyWord else name
    let opensHere : Look := .both (.sign "<") (.no (.sign "<="))
    let opensAfter : Look := .both (.sign "::") (.after 2 (.sign "<"))
    if (!inExpr && (← sees opensHere)) || (← sees opensAfter) then
      let _ ← acceptSign "::"
      return (name, some (← genericArguments g))
    else return (name, none)

/-- Reads a path. -/
def plainPath (g : Grammar) (inExpr : Bool) : Reader Path := do
  let isRooted ← acceptSign "::"
  let first ← segment g inExpr
  let rest ← manyWhile (.both (.sign "::") (.no (.after 2 (.group .parenthesis))))
    (do sign "::"; segment g inExpr)
  return pathOf (if isRooted then .rooted else .plain) [] (first :: rest)

/-- Reads a path that may start with a type in angle brackets. -/
def qualifiedPath (g : Grammar) (inExpr : Bool) : Reader Path := do
  if ← acceptSign "<" then
    let _ ← g.type true
    let before ← if ← acceptWord "as" then (·.names) <$> plainPath g false else pure []
    sign ">"
    sign "::"
    let first ← segment g inExpr
    let rest ← manyWhile (.sign "::") (do sign "::"; segment g inExpr)
    return pathOf .qualified before (first :: rest)
  else plainPath g inExpr

/-- Reads what a function gives, if that is written. -/
def output (g : Grammar) (allowsPlus : Bool) : Reader (Option Ty) := do
  if ← acceptSign "->" then return some (← g.type allowsPlus) else return none

/-- Reads the types of a function after the path of a trait, if they are there. The sign between
names may stand in front of them, but is not written. -/
def functionForm (g : Grammar) (p : Path) : Reader Unit := do
  let isSeparate ← sees (.both (.sign "::") (.after 2 (.group .parenthesis)))
  if !p.endsGeneric && (isSeparate || (← sees (.group .parenthesis))) then
    if isSeparate then drop 2
    let _ ← group .parenthesis (commaSeparated (g.type true))
    discard (output g false)

/-- Reads bounds after a colon, if there is one. A colon without bounds is not written. -/
def boundsAfterColon {α : Type} (bounds : Reader (List α)) : Reader (List α) := do
  if ← sees (.sign ":") then writtenIfFilled (do sign ":"; bounds) else return []

/-- Kinds of generic parameters. -/
inductive GenericParam where
  | lifetime
  | type
  | constant
  deriving DecidableEq

/-- Reads a generic parameter. A blank may stand for a type if that is allowed. -/
def genericParam (g : Grammar) (allowsBlank : Bool) : Reader GenericParam := do
  let _ ← attributes g
  let ends : Look := .any [.nothing, .sign ",", .sign ">"]
  if ← accept .lifetime 1 then
    let _ ← boundsAfterColon (separatedWhile ends "+" lifetime)
    return .lifetime
  else if ← acceptWord "const" then
    let _ ← name
    sign ":"
    let _ ← g.type true
    if ← acceptSign "=" then valueArgument g
    return .constant
  else if allowsBlank && (← acceptWord "_") then return .type
  else
    let _ ← name
    let _ ← boundsAfterColon
      (separatedWhile (.any [ends, .sign "="]) "+" (g.bound .conditional))
    if ← acceptSign "=" then discard (g.type true)
    return .type

/-- Reads generic parameters between angle brackets, if they are there, and gives their number. If
there are none between the brackets, nothing is written. -/
def genericParams (g : Grammar) : Reader Nat := do
  if ← sees (.sign "<") then
    return (← writtenIfFilled (angled (· == .lifetime) (genericParam g true))).length
  else return 0

/-- Reads the parameters that a type or a bound introduces, and says whether there are any. -/
def binder (g : Grammar) : Reader Bool := do
  if ← acceptWord "for" then
    let _ ← angled (fun _ => false) (genericParam g false)
    return true
  else return false

/-- Where a list of conditions or the bounds of one end. -/
def conditionEnd : Look :=
  .any [.nothing, .group .brace, .sign ",", .sign ";", .colon, .sign "="]

/-- Reads one condition on generic parameters. -/
def condition (g : Grammar) : Reader Unit := do
  if ← accept (.both .lifetime (.after 1 (.sign ":"))) 2 then
    discard (separatedWhile conditionEnd "+" lifetime)
  else
    let _ ← binder g
    let _ ← g.type true
    sign ":"
    discard (separatedWhile conditionEnd "+" (g.bound .conditional))

/-- Reads conditions on generic parameters, if they are there, and says whether they are. An empty
list of conditions is not written. -/
def conditions (g : Grammar) : Reader Bool := do
  if ← sees (.word "where") then
    let _ ← writtenIfFilled do
      word "where"
      if ← sees .generics then malformed
      separatedWhile conditionEnd "," (condition g)
    return true
  else return false

/-- Reads a call that is expanded, after its path. It is given whether it is there, and if so,
whether its arguments stand in braces. -/
def expansion (p : Path) : Reader (Option Bool) := do
  if p.isBare && (← sees .expansion) then
    skip 1
    return some ((← anyGroup).1 == .brace)
  else return none

/-- Takes the name of something that the language itself provides, with its arguments. -/
def builtin : Reader Unit := do
  skip 2
  let _ ← name
  expect (.group .parenthesis) 1

end Grammar

end Wiring.Source
