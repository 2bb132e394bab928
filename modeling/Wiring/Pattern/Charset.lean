import Wiring.Text.CaseFold
import Wiring.Text.Property

/-!
# Sets of characters in patterns

A set is kept as ranges of code points in ascending order without surrogates, so two sets are equal
if they have the same members. Patterns go by the earlier edition of the tables.
-/

namespace Wiring.Pattern

/-- A set of characters. -/
structure Charset where
  ranges : Text.Ranges
  deriving DecidableEq, Repr

namespace Charset

/-- What a range of code points holds besides surrogates. -/
def cut (r : Nat × Nat) : List (Nat × Nat) :=
  (if r.1 ≤ 0xD7FF then [(r.1, min r.2 0xD7FF)] else []) ++
    if 0xE000 ≤ r.2 then [(max r.1 0xE000, r.2)] else []

/-- The characters in some ranges of code points, in any order. -/
def ofSpans (spans : List (Nat × Nat)) : Charset :=
  ⟨Text.Ranges.ofSpans (spans.flatMap cut)⟩

/-- The characters among some code points. -/
def ofRanges (r : Text.Ranges) : Charset :=
  ofSpans r.toList

/-- Whether a character is a member. -/
def mem (s : Charset) (c : Char) : Bool :=
  s.ranges.has c

/-- The set without members. -/
def empty : Charset := ⟨#[]⟩

/-- The set with one member. -/
def single (c : Char) : Charset :=
  ⟨#[(c.toNat, c.toNat)]⟩

/-- The characters from one to another. -/
def range (low high : Char) : Charset :=
  ofSpans [(low.toNat, high.toNat)]

/-- All characters. -/
def all : Charset :=
  ofSpans [(0, Text.Ranges.lastPoint)]

/-- The members of either set. -/
def union (a b : Charset) : Charset :=
  ⟨a.ranges.union b.ranges⟩

/-- The members of any of some sets. -/
def unions (sets : List Charset) : Charset :=
  ⟨Text.Ranges.unions (sets.map ranges)⟩

/-- The characters that are not members. -/
def compl (a : Charset) : Charset :=
  ofRanges a.ranges.compl

/-- The members of both sets. -/
def inter (a b : Charset) : Charset :=
  ⟨a.ranges.inter b.ranges⟩

/-- The members of the first set that are not in the second. -/
def diff (a b : Charset) : Charset :=
  ⟨a.ranges.diff b.ranges⟩

/-- The members of exactly one of two sets. -/
def symmDiff (a b : Charset) : Charset :=
  union (diff a b) (diff b a)

/-- The only member of a set that has just one. -/
def only? (s : Charset) : Option Char :=
  match s.ranges.toList with
  | [(a, b)] => if a = b then some (Char.ofNat a) else none
  | _ => none

/-- Whether the set has no member. -/
def isEmpty (s : Charset) : Bool :=
  s.ranges.isEmpty

/-- The pairs of letters that differ in case among the first 128 characters. -/
def asciiOrbits : List (List Nat) :=
  (List.range 26).map fun k => [65 + k, 97 + k]

/-- The members and their case variants; the groups of variants are those of the letters of all
scripts, or of the first 128 characters only. -/
def anyCase (unicode : Bool) (s : Charset) : Charset :=
  let orbits := if unicode then Text.CaseFold.orbits else asciiOrbits
  let touched := orbits.filter fun orbit => orbit.any s.ranges.mem
  ofSpans (s.ranges.toList ++ touched.flatMap fun orbit => orbit.map fun n => (n, n))

/-- Decimal digits of all scripts. -/
def digit : Charset :=
  ofRanges (Text.Category.selected .sixteen ["Nd"])

/-- Blanks. -/
def space : Charset :=
  ofRanges Text.Property.whiteSpace

/-- Letters, marks, digits, joiners and connecting punctuation. -/
def word : Charset :=
  ofRanges (Text.Ranges.unions [Text.Property.alphabetic .sixteen,
    Text.Category.selected .sixteen ["Mn", "Mc", "Me", "Nd", "Pc"],
    Text.Property.listed "joincontrol"])

/-- The characters in some ranges below 128. -/
def ascii (spans : List (Nat × Nat)) : Charset :=
  ofSpans spans

/-- The class with a name between colons. -/
def posix? : String → Option Charset
  | "alnum" => some (ascii [(48, 57), (65, 90), (97, 122)])
  | "alpha" => some (ascii [(65, 90), (97, 122)])
  | "ascii" => some (ascii [(0, 127)])
  | "blank" => some (ascii [(9, 9), (32, 32)])
  | "cntrl" => some (ascii [(0, 31), (127, 127)])
  | "digit" => some (ascii [(48, 57)])
  | "graph" => some (ascii [(33, 126)])
  | "lower" => some (ascii [(97, 122)])
  | "print" => some (ascii [(32, 126)])
  | "punct" => some (ascii [(33, 47), (58, 64), (91, 96), (123, 126)])
  | "space" => some (ascii [(9, 13), (32, 32)])
  | "upper" => some (ascii [(65, 90)])
  | "word" => some (ascii [(48, 57), (65, 90), (95, 95), (97, 122)])
  | "xdigit" => some (ascii [(48, 57), (65, 70), (97, 102)])
  | _ => none

/-- Digits among the first 128 characters. -/
def asciiDigit : Charset := ascii [(48, 57)]

/-- Blanks among the first 128 characters. -/
def asciiSpace : Charset := ascii [(9, 13), (32, 32)]

/-- Word characters among the first 128 characters. -/
def asciiWord : Charset := ascii [(48, 57), (65, 90), (95, 95), (97, 122)]

end Charset

end Wiring.Pattern
