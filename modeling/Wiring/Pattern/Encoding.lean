import Wiring.Pattern.Charset

/-!
# Sets of characters as sequences of bytes

In UTF-8 the characters of a range are encoded by a few sequences of byte ranges, in ascending order
(`Charset.byteSequences`): a range is cut where the number of bytes changes and where a byte before
the last would not take all the values behind it.
-/

namespace Wiring.Pattern

/-- The bytes from one to another. -/
abbrev ByteRange := Nat × Nat

/-- The bytes that encode a code point. -/
def encoded (n : Nat) : List Nat :=
  if n < 0x80 then [n]
  else if n < 0x800 then [0xC0 + n / 64, 0x80 + n % 64]
  else if n < 0x10000 then [0xE0 + n / 4096, 0x80 + n / 64 % 64, 0x80 + n % 64]
  else [0xF0 + n / 262144, 0x80 + n / 4096 % 64, 0x80 + n / 64 % 64, 0x80 + n % 64]

/-- Where the range from `a` to `b` has to be cut because of blocks of `size` code points that it
holds a part of: the end of the first piece. -/
def blockCut? (a b size : Nat) : Option Nat :=
  if a / size = b / size then none
  else if a % size ≠ 0 then some (a - a % size + size - 1)
  else if b % size ≠ size - 1 then some (b - b % size - 1)
  else none

/-- Where the range from `a` to `b` has to be cut: the end of the first piece. -/
def cutPoint? (a b : Nat) : Option Nat :=
  match [0x7F, 0x7FF, 0xFFFF].find? fun m => a ≤ m && m < b with
  | some m => some m
  | none => [64, 4096, 262144].findSome? (blockCut? a b)

/-- The sequences that encode the range from `a` to `b`. The number bounds how often pieces are cut
again. -/
def rangeSequences : (bound : Nat) → (a b : Nat) → List (List ByteRange)
  | 0, _, _ => []
  | bound + 1, a, b =>
    match cutPoint? a b with
    | some m => rangeSequences bound a m ++ rangeSequences bound (m + 1) b
    | none => [(encoded a).zip (encoded b)]

/-- A range is cut at three places where the number of bytes changes, and twice for each byte. -/
def cutBound : Nat := 16

/-- The sequences of byte ranges that encode the characters of a set. -/
def Charset.byteSequences (s : Charset) : List (List ByteRange) :=
  s.ranges.toList.flatMap fun (a, b) => rangeSequences cutBound a b

/-- Whether every member is among the first 128 characters. -/
def Charset.isAscii (s : Charset) : Bool :=
  s.ranges.all fun (_, b) => b ≤ 0x7F

end Wiring.Pattern
