/-!
# Tokens of a source text

A source text is a list of token trees: words, signs, literals and lifetimes, and groups of trees
between matching brackets. A literal carries its spelling and what it stands for.
-/

namespace Wiring.Source

/-- The brackets around a group. -/
inductive Delimiter where
  | parenthesis
  | brace
  | bracket
  deriving DecidableEq, Repr

namespace Delimiter

/-- The bracket that opens a group. -/
def opening : Delimiter → Char
  | parenthesis => '('
  | brace => '{'
  | bracket => '['

/-- The bracket that closes a group. -/
def closing : Delimiter → Char
  | parenthesis => ')'
  | brace => '}'
  | bracket => ']'

/-- All kinds of brackets. -/
def all : List Delimiter :=
  [parenthesis, brace, bracket]

end Delimiter

/-- What a literal stands for, as far as it can be a default or an option. -/
inductive LiteralValue where
  | text (s : String)
  | character (c : Char)
  | natural (n : Nat)
  /-- A number with a fraction or an exponent, by its digits. -/
  | decimal (digits : String)
  /-- Bytes, or a text for a foreign interface. -/
  | other
  deriving DecidableEq, Repr

/-- A single token. -/
inductive Token where
  /-- A name or a keyword; a raw name keeps its mark. -/
  | word (text : String)
  /-- A punctuation sign, and whether another sign follows at once. -/
  | sign (mark : Char) (isJoint : Bool)
  | literal (text : String) (value : LiteralValue)
  | lifetime (name : String)
  deriving DecidableEq, Repr

namespace Token

/-- The pieces in which a token is listed. -/
def texts : Token → List String
  | word t => [t]
  | sign mark _ => [String.singleton mark]
  | literal t _ => [t]
  | lifetime name => [String.singleton (Char.ofNat 39), name]

end Token

/-- A token, or a group of trees in brackets. -/
inductive Tree where
  | leaf (token : Token)
  | group (delimiter : Delimiter) (content : List Tree)
  deriving Repr

namespace Tree

mutual

/-- How many tokens and groups a tree has. -/
def size : Tree → Nat
  | leaf _ => 1
  | group _ content => sizeOfAll content + 1

/-- How many tokens and groups some trees have. -/
def sizeOfAll : List Tree → Nat
  | [] => 0
  | t :: ts => t.size + sizeOfAll ts

end

mutual

/-- The pieces of a tree from left to right, its brackets among them. -/
def texts : Tree → List String
  | leaf token => token.texts
  | group d content =>
    String.singleton d.opening :: (textsOfAll content ++ [String.singleton d.closing])

/-- The pieces of some trees. -/
def textsOfAll : List Tree → List String
  | [] => []
  | t :: ts => t.texts ++ textsOfAll ts

end

end Tree

end Wiring.Source
