import Wiring.Pattern.Charset

/-!
# Patterns and what they match

A pattern is matched by the set of positions at which a match that starts in a given set can end
(`Pattern.ends`). A repetition is run as often as it has to be; since a text of `n` characters has
`n + 1` positions, no set changes after that many rounds.
-/

namespace Wiring

/-- Places in a text that a pattern can ask for. -/
inductive Pattern.Place where
  | textStart | textEnd
  | lineStart | lineEnd
  /-- Line starts and ends where `\r\n` ends a line too. -/
  | crlfStart | crlfEnd
  /-- Between a word character and another; the set says which characters are of words. -/
  | wordEdge (word : Pattern.Charset) | noWordEdge (word : Pattern.Charset)
  | wordStart (word : Pattern.Charset) | wordEnd (word : Pattern.Charset)
  | wordStartHalf (word : Pattern.Charset) | wordEndHalf (word : Pattern.Charset)
  deriving DecidableEq, Repr

/-- A pattern for texts. -/
inductive Pattern where
  | empty
  /-- These characters one after the other. -/
  | text (chars : List Char)
  /-- One character of a set. -/
  | set (chars : Pattern.Charset)
  | place (p : Pattern.Place)
  /-- A group that is counted. Groups with different numbers are different patterns. -/
  | group (number : Nat) (a : Pattern)
  | seq (a b : Pattern)
  | alt (a b : Pattern)
  /-- `a` at least `least` times and, where a bound is given, at most `most?` times. -/
  | rep (a : Pattern) (least : Nat) (most? : Option Nat)
  deriving DecidableEq, Repr

namespace Pattern

/-- The character after a position. -/
def charAt (t : Array Char) (i : Nat) : Option Char :=
  t[i]?

/-- The character before a position. -/
def charBefore (t : Array Char) (i : Nat) : Option Char :=
  if i = 0 then none else t[i - 1]?

/-- Whether a character is there and of a word. -/
def isWord (word : Charset) (c : Option Char) : Bool :=
  c.any word.mem

/-- Whether a position is such a place. -/
def Place.holds (t : Array Char) (i : Nat) : Place → Bool
  | textStart => i = 0
  | textEnd => i = t.size
  | lineStart => i = 0 || charBefore t i == some '\n'
  | lineEnd => i = t.size || charAt t i == some '\n'
  | crlfStart =>
    i = 0 || charBefore t i == some '\n' ||
      (charBefore t i == some '\r' && charAt t i != some '\n')
  | crlfEnd =>
    i = t.size || charAt t i == some '\r' ||
      (charAt t i == some '\n' && charBefore t i != some '\r')
  | wordEdge w => isWord w (charBefore t i) != isWord w (charAt t i)
  | noWordEdge w => isWord w (charBefore t i) == isWord w (charAt t i)
  | wordStart w => !isWord w (charBefore t i) && isWord w (charAt t i)
  | wordEnd w => isWord w (charBefore t i) && !isWord w (charAt t i)
  | wordStartHalf w => !isWord w (charBefore t i)
  | wordEndHalf w => !isWord w (charAt t i)

/-- The members of either list, without repetition. -/
def merge (a b : List Nat) : List Nat :=
  a ++ b.filter fun i => !a.contains i

/-- `f` applied `k` times. -/
def iterate (f : List Nat → List Nat) : (k : Nat) → List Nat → List Nat
  | 0, s => s
  | k + 1, s => if s.isEmpty then [] else iterate f k (f s)

/-- All that `f` reaches in up to `k` steps. -/
def closure (f : List Nat → List Nat) : (k : Nat) → List Nat → List Nat
  | 0, s => s
  | k + 1, s =>
    let next := merge s (f s)
    if next.length = s.length then s else closure f k next

/-- The positions behind a character of which `p` holds at one of the positions. -/
def step (t : Array Char) (p : Char → Bool) (s : List Nat) : List Nat :=
  (s.filter fun i => (charAt t i).any p).map (· + 1)

/-- The positions at which a match that starts at one of the positions can end. -/
def ends (t : Array Char) : Pattern → List Nat → List Nat
  | empty, s => s
  | text chars, s => chars.foldl (fun s c => step t (· == c) s) s
  | set chars, s => step t chars.mem s
  | place p, s => s.filter fun i => p.holds t i
  | group _ a, s => a.ends t s
  | seq a b, s => b.ends t (a.ends t s)
  | alt a b, s => merge (a.ends t s) (b.ends t s)
  | rep a least most?, s =>
    let rounds := t.size + 1
    let s := iterate (a.ends t) (min least rounds) s
    match most? with
    | none => closure (a.ends t) rounds s
    | some most => closure (a.ends t) (min (most - least) rounds) s

/-- Whether the pattern matches some part of the text. -/
def isMatch (p : Pattern) (s : String) : Bool :=
  let t := s.toList.toArray
  !(p.ends t (List.range (t.size + 1))).isEmpty

end Pattern

end Wiring
