import Wiring.Source.Grammar.Expr

/-!
# Reading the statements of a block
-/

namespace Wiring.Source.Grammar

open Reader

/-- What comes after a function's qualifiers. -/
def afterQualifiers (ts : List Tree) : List Tree :=
  let past (l : Look) (ts : List Tree) := if l ts then ts.drop 1 else ts
  let ts := past (.word "unsafe") (past (.word "async") (past (.word "const") ts))
  if Look.word "extern" ts then past .text (ts.drop 1) else ts

/-- A function comes next, with its qualifiers. -/
def functionStart : Look := fun ts => Look.word "fn" (afterQualifiers ts)

/-- A variable of the program is declared here, and this is no closure. -/
def staticStart : Look :=
  .both (.word "static") (.after 1 (.any [.word "mut",
    .both .name (.no (.both (.word "async") (.after 1 (.any [.word "move", .sign "|"]))))]))

/-- A constant or a function is declared here, and this is no block or closure. -/
def constantStart : Look :=
  let laterBlock : Look :=
    .both (.word "async") (.no (.after 1 (.words ["unsafe", "extern", "fn"])))
  .both (.word "const") (.no (.after 1 (.any
    [.group .brace, .words ["static", "move"], laterBlock, .sign "|"])))

/-- A declaration comes next in a block. -/
def itemStart : Look :=
  .any
    [.words ["pub", "extern", "use", "fn", "mod", "type", "struct", "enum", "trait", "impl",
      "macro"],
     .both (.word "crate") (.no (.after 1 (.sign "::"))), staticStart, constantStart,
     .both (.word "unsafe") (.no (.after 1 (.group .brace))),
     .both (.word "async") (.after 1 (.words ["unsafe", "extern", "fn"])),
     .both (.word "union") (.after 1 .name), .both (.word "auto") (.after 1 (.word "trait")),
     .both (.word "default") (.after 1 (.words ["unsafe", "impl"]))]

/-- Reads a variable with what it stands for at first. A block after the word for other cases ends
the program's way there, and what stands before that word must not end with a brace. -/
def letStatement (g : Grammar) : Reader Unit := do
  word "let"
  let _ ← g.pattern
  if ← acceptSign ":" then discard (g.type true)
  if ← acceptSign "=" then
    let (_, trees) ← captured (g.expr true)
    write trees
    let endsWithBrace := match trees.getLast? with
      | some (.group .brace _) => true
      | _ => false
    if !endsWithBrace then
      if ← acceptWord "else" then block g
  sign ";"

/-- Kinds of statements that start with the path of an expanded call. -/
inductive CallStatement where
  /-- A declaration. -/
  | item
  /-- A call with its arguments in braces, which ends there. -/
  | braced
  deriving DecidableEq

/-- What kind of statement starts with the path that is read next, if it is the path of such a
call. -/
def callStatement? : Reader (Option CallStatement) := do
  match ← ahead modulePath with
  | none => return none
  | some (_, s) =>
    let isFollowed : Look := .after 2 (.any [.point, .sign "?"])
    if !Look.sign "!" s.rest then return none
    else if Look.after 1 (.any [.name, .word "try"]) s.rest then return some .item
    else if Look.after 1 (.group .brace) s.rest && !isFollowed s.rest then return some .braced
    else return none

/-- Reads a statement, and says whether a semicolon has to follow before the next one. -/
def statement (g : Grammar) : Reader Bool := do
  let some (_, start) ← ahead (attributes g) | malformed
  let call? ← match callStatement?.run start with
    | .ok (kind?, _) => pure kind?
    | .error _ => pure none
  if call? = some .braced then
    let _ ← attributes g
    let _ ← modulePath
    sign "!"
    skip 1
    discard (acceptSign ";")
    return false
  else if Look.word "let" start.rest then
    let _ ← attributes g
    letStatement g
    return false
  else if call? = some .item || itemStart start.rest then
    let _ ← g.item
    return false
  else
    bodyAttributes g
    let e ← g.body
    let isEnded ← acceptSign ";"
    return !isEnded && e.needsSemicolon

/-- Reads statements to the end, at most so many, with semicolons after those that need one unless
they are the last. -/
def statementsUpTo (g : Grammar) : Nat → Reader Unit
  | 0 => return
  | n + 1 => do
    let _ ← manyWhile (.sign ";") (sign ";")
    if ← sees .nothing then return
    else
      let needsSemicolon ← statement g
      if ← sees .nothing then return
      else if needsSemicolon then malformed
      else statementsUpTo g n

/-- Reads the statements of a block with the grammar for what is inside them. -/
def statementsStep (g : Grammar) : Reader Unit := do
  statementsUpTo g ((← remaining) + 1)

end Wiring.Source.Grammar
