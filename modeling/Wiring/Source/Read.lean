import Wiring.Source.Grammar.Item
import Wiring.Source.Grammar.Type
import Wiring.Source.Lexer

/-!
# From texts to syntax

A grammar that reads so many levels of nesting is built from one that reads a level less. What is
nested in a list of trees takes at least one tree for every few levels, so the size of the list
bounds the levels that are needed. With the grammar that is enough for the trees of a text, the text
is read.
-/

namespace Wiring.Source

namespace Grammar

/-- The grammar that reads nothing. -/
def empty : Grammar where
  type _ := Reader.malformed
  bound _ := Reader.malformed
  pattern := Reader.malformed
  operand _ := Reader.malformed
  expr _ := Reader.malformed
  body := Reader.malformed
  statements := Reader.malformed
  item := Reader.malformed

/-- The grammar that reads one more level than another. -/
def step (g : Grammar) : Grammar where
  type := typeStep g
  bound := boundStep g
  pattern := patternStep g
  operand := operandStep g
  expr := exprStep g
  body := bodyStep g
  statements := statementsStep g
  item := itemStep g

/-- The grammar that reads so many levels. -/
def upTo : Nat → Grammar
  | 0 => empty
  | n + 1 => step (upTo n)

/-- The grammar that is enough for a list of trees. -/
def ofTrees (ts : List Tree) : Grammar :=
  upTo (4 * Tree.sizeOfAll ts + 8)

end Grammar

/-- Reads all of some trees with the grammar that is enough for them. -/
def readTrees {α : Type} (r : Grammar → Reader α) (ts : List Tree) : Except Flaw α :=
  Reader.whole (r (Grammar.ofTrees ts)) ts

/-- The trees of a text that has to consist of tokens. -/
def lexed (trees? : Option (List Tree)) : Except Flaw (List Tree) :=
  match trees? with
  | some ts => pure ts
  | none => throw .malformed

/-- The type that a text spells. -/
def readType (text : String) : Except Flaw Ty := do
  readTrees (·.type true) (← lexed (Lexer.trees? text))

/-- The declaration that some trees spell, with its standard form. -/
def readItem (ts : List Tree) : Except Flaw (Item × List Tree) :=
  Reader.wholeWritten (Grammar.ofTrees ts).item ts

/-- The declarations of a file. -/
def readFile (text : String) : Except Flaw (List Item) := do
  readTrees Grammar.file (← lexed (Lexer.fileTrees? text))

end Wiring.Source
