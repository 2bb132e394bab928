import Wiring.Source.Grammar.Basic

/-!
# Reading types and their bounds
-/

namespace Wiring.Source.Grammar

open Reader

/-- Reads a trait with what may stand in front of it. A binder and a question mark exclude each
other. -/
def traitBound (g : Grammar) (rules : BoundRules) : Reader Bound := do
  let isBound ← binder g
  let isConditional ←
    if ← sees (.group .bracket) then
      group .bracket (word "const")
      pure true
    else acceptWord "const"
  if isConditional && !rules.allowsConditional then malformed
  let isRelaxed ← acceptSign "?"
  if isRelaxed && isBound then malformed
  let path ← plainPath g false
  functionForm g path
  return if isConditional then .conditional else .trait path.names

/-- Reads a bound with the grammar for what is inside it. -/
def boundStep (g : Grammar) (rules : BoundRules) : Reader Bound := do
  if ← accept .lifetime 1 then return .lifetime
  else if ← acceptWord "use" then
    if !rules.allowsCapture then malformed
    let _ ← angled id do
      if ← accept .lifetime 1 then return true
      else
        expect (.any [.name, .word "Self"]) 1
        return false
    return .capture
  else
    verbatimIf do
      let bound ←
        if ← sees (.group .parenthesis) then group .parenthesis (traitBound g rules)
        else traitBound g rules
      return (bound, bound == .conditional)

/-- Where a bound may start after a plus sign. -/
def boundStart (rules : BoundRules) : Look :=
  .any [.anyWord, .sign "::", .sign "?", .lifetime, .group .parenthesis,
    .both (fun _ => rules.allowsConditional) (.group .bracket)]

/-- Reads further bounds, and whether a plus sign stands at the end. -/
def moreBounds (g : Grammar) (rules : BoundRules) : Reader (List Bound × Bool) := do
  let bounds ← manyWhile (.both (.sign "+") (.after 1 (boundStart rules)))
    (do sign "+"; g.bound rules)
  return (bounds, ← acceptSign "+")

/-- Reads bounds, a trait among them. -/
def bounds (g : Grammar) (allowsPlus : Bool) (rules : BoundRules) : Reader (List Bound × Bool) := do
  let first ← g.bound rules
  let (more, endsWithPlus) ← if allowsPlus then moreBounds g rules else pure ([], false)
  let all := first :: more
  if all.all fun b => b == .lifetime || b == .capture then malformed
  return (all, endsWithPlus)

/-- Reads bounds that make up a trait object. -/
def traitObject (g : Grammar) (allowsPlus : Bool) : Reader Ty :=
  return .traitObject false (← bounds g allowsPlus .strict).1

/-- What stands between parentheses where a type is expected. -/
inductive Enclosed where
  | type (t : Ty)
  /-- A tuple, or bounds: no bounds may be added to it. -/
  | closed (t : Ty)
  /-- A bound, to which others may be added. -/
  | bound (b : Bound)

/-- Reads what stands between parentheses. -/
def enclosed (g : Grammar) : Reader Enclosed := do
  if ← sees .nothing then return .closed .sequence
  else if ← sees .lifetime then return .closed (.parenthesized (← traitObject g true))
  else if ← sees (.sign "?") then return .bound (← traitBound g .strict)
  else
    let first ← g.type true
    if ← acceptSign "," then
      let _ ← commaSeparated (g.type true)
      return .closed .sequence
    else return .type first

/-- The bound that a type in parentheses is, if others may be added to it. -/
def loneBound? : Ty → Option Bound
  | .path root names _ => if root = .qualified then none else some (.trait names)
  | .traitObject true [b] => some b
  | _ => none

/-- Reads a type that starts with parentheses. -/
def parenthesizedType (g : Grammar) (allowsPlus : Bool) : Reader Ty := do
  let more := manyWhile (.sign "+") (do sign "+"; g.bound .strict)
  let object (b : Bound) : Reader Ty := do
    let rest ← more
    return .traitObject rest.isEmpty (b :: rest)
  match ← group .parenthesis (enclosed g) with
  | .closed t => return t
  | .bound b => object b
  | .type t =>
    match loneBound? t with
    | some b =>
      if allowsPlus && (← sees (.sign "+")) then object b else return .parenthesized t
    | none => return .parenthesized t

/-- Reads a type that starts with a path. -/
def pathType (g : Grammar) (allowsPlus isBound : Bool) : Reader Ty := do
  let path ← qualifiedPath g false
  if path.root = .qualified then return .path path.root path.names path.arguments
  else if (← expansion path).isSome then return .other
  else if isBound || (allowsPlus && (← sees (.sign "+"))) then
    let isAlone ← sees (.no (.sign "+"))
    let (more, _) ← if allowsPlus then moreBounds g .strict else pure ([], false)
    return .traitObject (!allowsPlus || isAlone) (.trait path.names :: more)
  else return .path path.root path.names path.arguments

/-- Reads a parameter of a function type, and whether it stands for any number of arguments. The
first may be what a method is called on, with a name in front of it even. -/
def functionTypeParam (g : Grammar) (isFirst : Bool) : Reader Bool := do
  let _ ← attributes g
  let nameOrBlank : Look := .any [.name, .word "_"]
  let namedVariadic : Look :=
    .both nameOrBlank (.both (.after 1 (.sign ":")) (.after 2 (.sign "...")))
  let changedReceiver : Look :=
    .both (fun _ => isFirst) (.both (.word "mut") (.after 1 (.word "self")))
  if ← accept (.sign "...") 3 then return true
  else if ← accept namedVariadic 5 then return true
  else
    verbatimIf do
      let isChanged ← accept changedReceiver 1
      if ← accept (.both nameOrBlank (.after 1 .colon)) 2 then
        if ← accept changedReceiver 2 then return (false, true)
        else
          let _ ← g.type true
          return (false, false)
      else
        let isReceiver ←
          accept (.both (fun _ => isFirst) (.both (.word "self") (.after 1 .colon))) 2
        if isChanged && !isReceiver then word "self" else discard (g.type true)
        return (false, isChanged)

/-- Reads the parameters of a function type. Only the last may stand for any number of arguments. -/
def functionTypeParams (g : Grammar) : Reader Unit := do
  go (← remaining) true
where
  /-- At most so many parameters. -/
  go : Nat → Bool → Reader Unit
    | 0, _ => return
    | n + 1, isFirst => do
      if ← sees .nothing then return
      else if ← functionTypeParam g isFirst then discard (acceptSign ",")
      else if ← sees .nothing then return
      else
        sign ","
        go n false

/-- Reads the type of a function. -/
def functionType (g : Grammar) : Reader Ty := do
  let _ ← acceptWord "unsafe"
  if ← acceptWord "extern" then discard (accept .text 1)
  word "fn"
  group .parenthesis (functionTypeParams g)
  let _ ← output g false
  return .other

/-- Reads an array or a slice. -/
def bracketedType (g : Grammar) : Reader Ty :=
  group .bracket do
    let _ ← g.type true
    if ← acceptSign ";" then discard (g.expr true)
    return .sequence

/-- Reads a trait object after its word. One with a star is written as it stands. -/
def dynamicType (g : Grammar) (allowsPlus : Bool) : Reader Ty :=
  verbatimIf do
    word "dyn"
    let isStarred ← acceptSign "*"
    let object ← traitObject g allowsPlus
    return (if isStarred then .other else object, isStarred)

/-- Reads a type with the grammar for what is inside it. -/
def typeStep (g : Grammar) (allowsPlus : Bool) : Reader Ty := do
  let isBound ← binder g
  let function : Look := .words ["fn", "unsafe", "extern"]
  if isBound && !(← sees (.any [.name, function, .words pathWords])) then malformed
  else if ← sees (.group .parenthesis) then parenthesizedType g allowsPlus
  else if ← sees function then functionType g
  else if !isBound && (← sees .builtin) then
    builtin
    return .other
  else if ← sees (.any [.name, .pathStart]) then pathType g allowsPlus isBound
  else if ← sees (.word "dyn") then dynamicType g allowsPlus
  else if ← sees (.group .bracket) then bracketedType g
  else if ← acceptSign "*" then
    expect (.words ["const", "mut"]) 1
    let _ ← g.type false
    return .other
  else if ← acceptSign "&" then
    let _ ← accept .lifetime 1
    let _ ← acceptWord "mut"
    return .reference (← g.type false)
  else if ← acceptSign "!" then return .other
  else if ← acceptWord "impl" then
    let _ ← bounds g allowsPlus .capturing
    return .other
  else if ← acceptWord "_" then return .other
  else if ← sees .lifetime then traitObject g true
  else malformed

end Wiring.Source.Grammar
