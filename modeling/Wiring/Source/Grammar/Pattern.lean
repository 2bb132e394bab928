import Wiring.Source.Grammar.Basic

/-!
# Reading patterns

Of a pattern its name is kept, if it is one, and whether it is a range that is open at an end: such
a range needs parentheses within brackets.
-/

namespace Wiring.Source.Grammar

open Reader

/-- A stroke between alternatives. -/
def stroke : Look := .both (.sign "|") (.no (.any [.sign "||", .sign "|="]))

/-- Reads alternatives, with a stroke in front perhaps. -/
def alternatives (g : Grammar) : Reader PatternForm := do
  let isLed ← acceptSign "|"
  let first ← g.pattern
  let more ← manyWhile stroke (do sign "|"; g.pattern)
  return if isLed || !more.isEmpty then .other else first

/-- Reads an end of a range, if it is there, and says whether it is. -/
def rangeEnd (g : Grammar) : Reader Bool := do
  let missing : Look :=
    .any [.nothing, .sign "|", .sign "=", .colon, .sign ",", .sign ";", .word "if"]
  if ← sees missing then return false
  else
    if ← sees .literal then anyLiteral
    else if ← sees (.any [.name, .pathStart]) then discard (qualifiedPath g true)
    else
      word "const"
      discard (openBlock g)
    return true

/-- Takes the sign of a range, and says whether the range has its upper end within it. Three points
are written as two and an equals sign if that is allowed. -/
def rangeSign (allowsThree : Bool) : Reader Bool := do
  if ← acceptSign "..=" then return true
  else if ← sees (.sign "...") then
    if !allowsThree then malformed
    drop 3
    write [.leaf (.sign '.' true), .leaf (.sign '.' true), signTree '=']
    return true
  else
    sign ".."
    return false

/-- Reads the rest of a range after its lower end. -/
def rangeRest (g : Grammar) : Reader PatternForm := do
  let isClosed ← rangeSign true
  let hasEnd ← rangeEnd g
  if isClosed && !hasEnd then malformed
  return if hasEnd then .other else .openRange

/-- Reads a field of a record pattern. -/
def fieldPattern (g : Grammar) : Reader Unit := do
  let isBoxed ← acceptWord "box"
  let isReference ← acceptWord "ref"
  let isPlaced := (← acceptWord "mut") || isReference || isBoxed
  if isPlaced then discard name
  else
    let isNamed ← member
    if !isNamed || (← sees (.sign ":")) then
      sign ":"
      discard (alternatives g)

/-- Reads the fields of a record pattern. Two points stand for all others, and nothing may follow
them. -/
def fieldPatterns (g : Grammar) : Reader Unit := do
  go (← remaining)
where
  /-- At most so many fields. -/
  go : Nat → Reader Unit
    | 0 => return
    | n + 1 => do
      if ← sees .nothing then return
      else
        let _ ← attributes g
        if ← acceptSign ".." then return
        else
          fieldPattern g
          if ← sees .nothing then return
          else
            sign ","
            go n

/-- Reads a pattern that starts with a path. -/
def pathPattern (g : Grammar) : Reader PatternForm := do
  let path ← qualifiedPath g true
  if (← expansion path).isSome then return .other
  else if ← sees (.group .brace) then
    group .brace (fieldPatterns g)
    return .other
  else if ← sees (.group .parenthesis) then
    let _ ← group .parenthesis (commaSeparated (alternatives g))
    return .other
  else if ← sees (.sign "..") then rangeRest g
  else return .other

/-- Reads a pattern that is a name. -/
def namePattern (g : Grammar) : Reader PatternForm := do
  let _ ← acceptWord "ref"
  let _ ← acceptWord "mut"
  let name ← if ← sees (.word "self") then anyWord else name
  if ← acceptSign "@" then discard g.pattern
  return .name name

/-- Reads an element between brackets. -/
def elementPattern (g : Grammar) : Reader Unit := do
  if (← alternatives g) == .openRange then malformed

/-- Reads a pattern with the grammar for what is inside it. -/
def patternStep (g : Grammar) : Reader PatternForm := do
  let longPath : Look :=
    .any
      [.both .name (.after 1 (.any
        [.sign "::", .sign "!", .group .brace, .group .parenthesis, .sign ".."])),
       .both (.word "self") (.after 1 (.sign "::")),
       .sign "::", .sign "<", .words ["Self", "super", "crate"]]
  if ← sees longPath then pathPattern g
  else if ← acceptWord "_" then return .other
  else if ← sees (.word "box") then
    verbatim do
      skip 1
      discard g.pattern
    return .other
  else if ← sees (.any [.sign "-", .literal, .word "const"]) then
    let _ ← rangeEnd g
    if ← sees (.sign "..") then rangeRest g else return .other
  else if ← sees (.any [.name, .words ["ref", "mut", "self"]]) then namePattern g
  else if ← acceptSign "&" then
    let _ ← acceptWord "mut"
    let _ ← g.pattern
    return .other
  else if ← sees (.group .parenthesis) then
    let _ ← group .parenthesis (commaSeparated (alternatives g))
    return .other
  else if ← sees (.group .bracket) then
    let _ ← group .bracket (commaSeparated (elementPattern g))
    return .other
  else if ← sees (.both (.sign "..") (.no (.sign "..."))) then
    let isClosed ← rangeSign false
    let hasEnd ← rangeEnd g
    if isClosed && !hasEnd then malformed
    return if hasEnd then .openRange else .other
  else malformed

end Wiring.Source.Grammar
