import Wiring.Source.Grammar.Pattern
import Wiring.Text.Fields

/-!
# Reading the operands of expressions

An operand is an atom with what follows it: calls, elements, fields and methods. Signs and
attributes may stand in front of it. A range that starts with its sign is an operand too, but
nothing follows it, and it has no attributes.
-/

namespace Wiring.Source.Grammar

open Reader

/-- Reads arguments between parentheses. -/
def arguments (g : Grammar) : Reader (List Expr) :=
  group .parenthesis (commaSeparated (g.expr true))

/-- The positions that a number with a point spells. A point at its end stands before what comes
next. -/
def positions? (text : String) : Option (List Nat × Bool) :=
  match (Text.fields '.' text).reverse with
  | "" :: parts => (parts.reverse.mapM Literal.position?).map (·, true)
  | parts => (parts.reverse.mapM Literal.position?).map (·, false)

/-- Reads a field or a method after the point, with what it is applied to. -/
def namedMember (g : Grammar) (target : Expr) : Reader Expr := do
  if ← acceptWord "await" then return .other
  else if ← member then
    let isTyped ← acceptSign "::"
    if isTyped then discard (genericArguments g)
    if isTyped || (← sees (.group .parenthesis)) then
      return .methodCall target (← arguments g)
    else return .other
  else return .other

/-- Reads an element of a tuple, a field or a method after the point, with what it is applied to.
Two positions with a point between them look like one number. -/
def memberOf (g : Grammar) (target : Expr) : Reader Expr := do
  match (← get).rest with
  | .leaf (.literal text (.decimal _)) :: _ =>
    match positions? text with
    | some (positions, goesOn) =>
      writePositions positions
      if goesOn then
        write [signTree '.']
        namedMember g .other
      else return .other
    | none => malformed
  | _ => namedMember g target

/-- Reads what may follow an operand. -/
def trailers (g : Grammar) : Nat → Expr → Reader Expr
  | 0, e => return e
  | n + 1, e => do
    if ← sees (.group .parenthesis) then trailers g n (.call e (← arguments g))
    else if !e.isRange && (← sees .point) then
      skip 1
      trailers g n (← memberOf g e)
    else if ← sees (.group .bracket) then
      let _ ← group .bracket (g.expr true)
      trailers g n .other
    else if !e.isRange && (← sees (.sign "?")) then
      skip 1
      trailers g n .other
    else return e

/-- Reads a field of a record. -/
def recordField (g : Grammar) : Reader Unit := do
  let _ ← attributes g
  let isNamed ← member
  if !isNamed || (← sees (.sign ":")) then
    sign ":"
    discard (g.expr true)

/-- Reads the fields of a record. Two points stand for the fields of another record, and nothing may
follow that. -/
def recordFields (g : Grammar) : Reader Unit := do
  go (← remaining)
where
  /-- At most so many fields. -/
  go : Nat → Reader Unit
    | 0 => return
    | n + 1 => do
      if ← sees .nothing then return
      else if ← acceptSign ".." then
        if ← sees (.no .nothing) then discard (g.expr true)
      else
        recordField g
        if ← sees .nothing then return
        else
          sign ","
          go n

/-- Reads an operand that starts with a path. -/
def pathOperand (g : Grammar) (allowsRecord : Bool) : Reader Expr := do
  let path ← qualifiedPath g true
  match ← expansion path with
  | some isBraced => return .expansion isBraced
  | none =>
    if allowsRecord && (← sees (.group .brace)) then
      group .brace (recordFields g)
      return .other
    else return .path path

/-- Reads what stands between parentheses in an expression. -/
def parenthesizedOperand (g : Grammar) : Reader Expr :=
  group .parenthesis do
    if ← sees .nothing then return .other
    else
      let first ← g.expr true
      if ← sees .nothing then return .parenthesized first
      else
        sign ","
        let _ ← commaSeparated (g.expr true)
        return .other

/-- Reads what stands between brackets in an expression. -/
def bracketedOperand (g : Grammar) : Reader Expr :=
  group .bracket do
    if ← sees .nothing then return .array []
    else
      let first ← g.expr true
      if ← acceptSign ";" then
        let _ ← g.expr true
        return .other
      else if ← sees .nothing then return .array [first]
      else
        sign ","
        return .array (first :: (← commaSeparated (g.expr true)))

/-- Reads a parameter of a closure. Attributes in front of a boxed pattern are not written if it has
no type. -/
def closureParam (g : Grammar) : Reader Unit := do
  let (_, attributeTrees) ← captured (attributes g)
  let isBoxed ← sees (.word "box")
  let (_, patternTrees) ← captured g.pattern
  let isTyped ← sees (.sign ":")
  if isTyped || !isBoxed then write attributeTrees
  write patternTrees
  if isTyped then
    sign ":"
    discard (g.type true)

/-- Reads a closure. -/
def closure (g : Grammar) (allowsRecord : Bool) : Reader Expr := do
  let _ ← binder g
  let _ ← acceptWord "const"
  let _ ← acceptWord "static"
  let _ ← acceptWord "async"
  let _ ← acceptWord "move"
  sign "|"
  let _ ← separatedUntil (.sign "|") "," (closureParam g)
  sign "|"
  if ← acceptSign "->" then
    let _ ← g.type true
    block g
  else discard (g.expr allowsRecord)
  return .other

/-- A name or a keyword comes next, but not the one of a conversion. -/
def anyWordButAs : Look := .both .anyWord (.no (.word "as"))

/-- An operand that is written as it stands comes next, and nothing is applied to it. -/
def keptStart : Look :=
  .any
    [.word "become",
     .both .builtin (.no (.after 4 (.any
       [.point, .sign "?", .group .bracket, .group .parenthesis])))]

/-- Reads the attributes of an expression that ends after a block. Those of an operand that is
written as it stands are not written. -/
def bodyAttributes (g : Grammar) : Reader Unit := do
  let (_, trees) ← captured (attributes g)
  if !(← sees keptStart) then write trees

/-- An expression may start here. -/
def exprStart : Look :=
  .any
    [anyWordButAs, .anyGroup, .literal,
     .both (.sign "!") (.no (.sign "!=")),
     .both (.sign "-") (.no (.any [.sign "-=", .sign "->"])),
     .both (.sign "*") (.no (.sign "*=")),
     .both (.sign "|") (.no (.sign "|=")),
     .both (.sign "&") (.no (.sign "&=")),
     .sign "..",
     .both (.sign "<") (.no (.any [.sign "<=", .sign "<<="])),
     .sign "::", .lifetime, .sign "#"]

/-- Reads what a word that ends a loop gives. A label must not be followed by a colon. Where a
record may not be written out, a block right after the word does not belong to it. -/
def breakValue (g : Grammar) (allowsRecord : Bool) : Reader Unit := do
  if ← sees (.both .lifetime (.after 1 (.sign ":"))) then malformed
  let _ ← accept .lifetime 1
  if ← sees exprStart then
    if allowsRecord || !(← sees (.group .brace)) then discard (g.expr true)

/-- Reads a choice by conditions. -/
def ifChain (g : Grammar) : Nat → Reader Unit
  | 0 => malformed
  | n + 1 => do
    word "if"
    let _ ← g.expr false
    block g
    if ← acceptWord "else" then
      if ← sees (.word "if") then ifChain g n else block g

/-- The words that start a choice, a loop or a marked block. -/
def blockWords : List String :=
  ["if", "while", "for", "loop", "match", "unsafe"]

/-- A block, a loop or a choice starts here, which is a statement by itself. -/
def blockStart : Look :=
  .any
    [.both (.word "for") (.no (.after 1 .generics)), .words (blockWords.filter (· != "for")),
     .both (.words ["try", "const"]) (.after 1 (.group .brace)), .group .brace, .lifetime]

/-- Reads an arm of a choice by patterns. A comma has to follow, unless the arm is the last or its
body is a block. -/
def arm (g : Grammar) : Reader Unit := do
  let _ ← attributes g
  let _ ← alternatives g
  if ← acceptWord "if" then discard (g.expr true)
  sign "=>"
  let e ← g.body
  let needsComma := !e.isBlock && !(← sees .nothing)
  if needsComma then sign "," else discard (acceptSign ",")

/-- Reads a choice, a loop or a block. -/
def blockForm (g : Grammar) : Reader Expr := do
  if ← sees .lifetime then
    skip 1
    sign ":"
    if !(← sees (.any [.words ["while", "for", "loop"], .group .brace])) then malformed
  if ← sees (.word "if") then ifChain g (← remaining)
  else if ← acceptWord "while" then
    let _ ← g.expr false
    discard (openBlock g)
  else if ← acceptWord "for" then
    let _ ← alternatives g
    word "in"
    let _ ← g.expr false
    discard (openBlock g)
  else if ← acceptWord "match" then
    let _ ← g.expr false
    group .brace do
      let _ ← innerAttributes g
      discard (manyWhile (.no .nothing) (arm g))
  else if ← acceptWord "try" then block g
  else
    let _ ← accept (.words ["loop", "unsafe", "const"]) 1
    discard (openBlock g)
  return .block

end Wiring.Source.Grammar
