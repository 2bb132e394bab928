import Wiring.Source.Grammar.Operand

/-!
# Reading expressions

An expression is a chain of operands with operators between them, which bind more or less. Nothing
is ever asked of a chain with an operator in it but whether it is a comparison, since comparisons
must not be chained, or a range, since nothing is added to a range.
-/

namespace Wiring.Source.Grammar

open Reader

/-- How much an operator binds. -/
inductive Precedence where
  | least
  | assignment
  | range
  | disjunction
  | conjunction
  | comparison
  | bitOr
  | bitXor
  | bitAnd
  | shift
  | sum
  | product
  | conversion
  deriving DecidableEq

/-- The place of a precedence in their order. -/
def Precedence.rank : Precedence → Nat
  | least => 0
  | assignment => 1
  | range => 2
  | disjunction => 3
  | conjunction => 4
  | comparison => 5
  | bitOr => 6
  | bitXor => 7
  | bitAnd => 8
  | shift => 9
  | sum => 10
  | product => 11
  | conversion => 12

/-- The operators between two operands, longer ones first. -/
def operators : List (String × Precedence) :=
  [("<<=", .assignment), (">>=", .assignment), ("+=", .assignment), ("-=", .assignment),
    ("*=", .assignment), ("/=", .assignment), ("%=", .assignment), ("^=", .assignment),
    ("&=", .assignment), ("|=", .assignment), ("&&", .conjunction), ("||", .disjunction),
    ("<<", .shift), (">>", .shift), ("==", .comparison), ("<=", .comparison),
    ("!=", .comparison), (">=", .comparison), ("+", .sum), ("-", .sum), ("*", .product),
    ("/", .product), ("%", .product), ("^", .bitXor), ("&", .bitAnd), ("|", .bitOr),
    ("<", .comparison), (">", .comparison)]

/-- The operator that comes next. -/
def operator? (ts : List Tree) : Option (String × Precedence) :=
  match operators.find? fun o => Look.sign o.1 ts with
  | some o => some o
  | none =>
    if Look.sign "=" ts && !Look.sign "=>" ts then some ("=", .assignment) else none

/-- How much what comes next binds. -/
def precedenceOf (ts : List Tree) : Precedence :=
  match operator? ts with
  | some (_, p) => p
  | none =>
    if Look.sign ".." ts then .range else if Look.word "as" ts then .conversion else .least

/-- Nothing that could be applied to the result follows a conversion. -/
def conversionEnd : Look :=
  .no (.any [.point, .sign "?", .group .bracket, .group .parenthesis])

/-- Where the upper end of a range is left out. -/
def openEnd (allowsRecord : Bool) : Look :=
  .any
    [.nothing, .sign ",", .sign ";", .point, .sign "?", .sign "=>",
     .both (fun _ => !allowsRecord) (.group .brace), .sign "=", .sign "+", .sign "/", .sign "%",
     .sign "^", .sign ">", .sign "<=", .sign "!=", .sign "-=", .sign "*=", .sign "&=", .sign "|=",
     .sign "<<=", .word "as"]

mutual

/-- Adds to an operand the operators that follow and bind at least as much as is given, with their
operands. -/
def chain (g : Grammar) (allowsRecord : Bool) : Nat → Precedence → Expr → Reader Expr
  | 0, _, e => return e
  | n + 1, base, e => do
    let ts := (← get).rest
    if e.isRange then return e
    else
      match operator? ts with
      | some (text, p) =>
        if p.rank < base.rank then return e
        else if p = .comparison && e.isComparison then malformed
        else
          sign text
          rightSide g allowsRecord n p
          chain g allowsRecord n base (if p = .comparison then .comparison else .other)
      | none =>
        if base.rank ≤ Precedence.range.rank && Look.sign ".." ts then
          rangeTail g allowsRecord n
          chain g allowsRecord n base .range
        else if base.rank ≤ Precedence.conversion.rank && Look.word "as" ts then
          word "as"
          let _ ← g.type false
          expect conversionEnd 0
          chain g allowsRecord n base .other
        else return e

/-- Reads the right side of an operator. -/
def rightSide (g : Grammar) (allowsRecord : Bool) : Nat → Precedence → Reader Unit
  | 0, _ => malformed
  | n + 1, p => do
    let e ← g.operand allowsRecord
    tighten g allowsRecord n p e

/-- Adds to the right side of an operator what binds more than the operator. Assignments are read
from the right. -/
def tighten (g : Grammar) (allowsRecord : Bool) : Nat → Precedence → Expr → Reader Unit
  | 0, _, _ => return
  | n + 1, p, e => do
    let next := precedenceOf (← get).rest
    if p.rank < next.rank || (next = p && p = .assignment) then
      let before ← remaining
      let e ← chain g allowsRecord n next e
      if (← remaining) < before then tighten g allowsRecord n p e

/-- Reads the sign of a range and its upper end. -/
def rangeTail (g : Grammar) (allowsRecord : Bool) : Nat → Reader Unit
  | 0 => malformed
  | n + 1 => do
    let isClosed ← rangeSign false
    if isClosed || !(← sees (openEnd allowsRecord)) then rightSide g allowsRecord n .range

end

/-- How many steps are enough to read a chain to its end. -/
def chainSteps : Reader Nat := return 4 * (← remaining) + 4

/-- Adds to an operand the operators that follow, with their operands. -/
def wholeChain (g : Grammar) (allowsRecord : Bool) (base : Precedence) (e : Expr) :
    Reader Expr := do
  chain g allowsRecord (← chainSteps) base e

/-- Reads a pattern and what is matched with it. -/
def letForm (g : Grammar) (allowsRecord : Bool) : Reader Unit := do
  let _ ← alternatives g
  sign "="
  discard (wholeChain g allowsRecord .comparison (← g.operand allowsRecord))

/-- Where a closure starts. -/
def closureStart : Look :=
  .any
    [.sign "|", .words ["move", "static"], .both (.word "for") (.after 1 .generics),
     .both (.word "const") (.no (.after 1 (.group .brace))),
     .both (.word "async") (.after 1 (.any [.sign "|", .word "move"]))]

/-- Where a block that runs later starts. -/
def asyncStart : Look :=
  .both (.word "async") (.any [.after 1 (.group .brace),
    .both (.after 1 (.word "move")) (.after 2 (.group .brace))])

/-- Where an operand that is a path or starts with one begins. -/
def pathOperandStart : Look :=
  .any [.name, .pathStart, .both (.word "try") (.after 1 (.any [.sign "!", .sign "::"]))]

/-- Reads an operand that starts with a keyword. -/
def keywordOperand (g : Grammar) (allowsRecord : Bool) : Reader Expr := do
  match ← anyWord with
  | "break" => breakValue g allowsRecord
  | "continue" => discard (accept .lifetime 1)
  | "return" | "yield" => if ← sees exprStart then discard (g.expr true)
  | "let" => letForm g allowsRecord
  | "_" => pure ()
  | _ => malformed
  return .other

/-- Reads an operand without what may follow it. -/
def atom (g : Grammar) (allowsRecord : Bool) : Reader Expr := do
  match (← get).rest with
  | .leaf (.literal _ value) :: _ =>
    skip 1
    return .literal value
  | ts =>
    if ← acceptWord "true" then return .truth true
    else if ← acceptWord "false" then return .truth false
    else if asyncStart ts then
      word "async"
      let _ ← acceptWord "move"
      block g
      return .other
    else if Look.both (.word "try") (.after 1 (.group .brace)) ts then blockForm g
    else if closureStart ts then closure g allowsRecord
    else if Look.builtin ts then
      verbatim builtin
      return .other
    else if pathOperandStart ts then pathOperand g allowsRecord
    else if Look.group .parenthesis ts then parenthesizedOperand g
    else if Look.word "become" ts then
      verbatim (do skip 1; discard (g.expr true))
      return .other
    else if Look.group .bracket ts then bracketedOperand g
    else if blockStart ts then blockForm g
    else if Look.sign ".." ts then
      rangeTail g allowsRecord (← chainSteps)
      return .range
    else keywordOperand g allowsRecord

/-- Reads an operand with what follows it. Attributes may stand in front of it unless it is a
range. -/
def trailedAtom (g : Grammar) (allowsRecord hasAttributes : Bool) : Reader Expr := do
  let first ← atom g allowsRecord
  let e ← trailers g (← remaining) first
  if hasAttributes && e.isRange then malformed
  return e

/-- Reads an operand with the grammar for what is inside it. -/
def operandStep (g : Grammar) (allowsRecord : Bool) : Reader Expr := do
  let attributes ← verbatimIf do return (← attributes g, ← sees keptStart)
  if ← acceptSign "&" then
    if !(← accept (.both (.word "raw") (.after 1 (.words ["mut", "const"]))) 2) then
      discard (acceptWord "mut")
    let _ ← g.operand allowsRecord
    return .other
  else if ← sees (.any [.sign "*", .sign "!", .sign "-"]) then
    let isMinus ← sees (.sign "-")
    skip 1
    let e ← g.operand allowsRecord
    return if isMinus then .negated e else .other
  else trailedAtom g allowsRecord (!attributes.isEmpty)

/-- Reads an expression with the grammar for what is inside it. -/
def exprStep (g : Grammar) (allowsRecord : Bool) : Reader Expr := do
  wholeChain g allowsRecord .least (← g.operand allowsRecord)

/-- Reads an expression that ends after a block, with the grammar for what is inside it. -/
def bodyStep (g : Grammar) : Reader Expr := do
  bodyAttributes g
  let e ← if ← sees blockStart then blockForm g else g.operand true
  if !e.isBlock then wholeChain g true .least e
  else if ← sees (.any [.point, .sign "?"]) then
    wholeChain g true .least (← trailers g (← remaining) e)
  else return e

end Wiring.Source.Grammar
