import Wiring.Datum.Basic
import Wiring.Decimal.Nearest
import Wiring.Text.Ranges

/-!
# Reading JSON text

`Json.parse?` reads one value and nothing after it. Texts with unescaped control characters are
refused. Lists and records nested 128 deep or deeper have no value, nor have texts with halves of
surrogate pairs and numbers that are too large; `Json.read?` refuses a text with any of those in it.

A number without fraction and exponent that fits a word of 64 bits is whole. Any other is a double:
its significand holds the digits up to the last one that keeps it below `2 ^ 64`, and the double
nearest to the significand is then scaled by a power of ten.
-/

namespace Wiring.Json

/-- A reader takes what it reads off the front of the text. -/
abbrev Reader (α : Type) := List Char → Option (α × List Char)

/-- Skips blanks, line ends and tabs. -/
def skip (cs : List Char) : List Char :=
  cs.dropWhile fun c => c == ' ' || c == '\n' || c == '\t' || c == '\r'

/-- Reads four hexadecimal digits. -/
def hex4 : Reader Nat
  | a :: b :: c :: d :: rest => (Text.Ranges.hexNumber? [a, b, c, d]).map (·, rest)
  | _ => none

/-- Reads the code point of an escape with four digits, or of a surrogate pair of two of them. Half
of a pair stands for no character. -/
def unicodeEscape : Reader (Option Char) := fun cs => do
  let (high, rest) ← hex4 cs
  if 0xD800 ≤ high ∧ high ≤ 0xDBFF then
    match rest with
    | '\\' :: 'u' :: after =>
      match hex4 after with
      | some (low, after) =>
        if 0xDC00 ≤ low ∧ low ≤ 0xDFFF then
          return (some (Char.ofNat (0x10000 + (high - 0xD800) * 0x400 + (low - 0xDC00))), after)
        else return (none, rest)
      | none => return (none, rest)
    | _ => return (none, rest)
  else if 0xDC00 ≤ high ∧ high ≤ 0xDFFF then return (none, rest)
  else return (some (Char.ofNat high), rest)

/-- Reads the rest of an escape after its backslash. -/
def escape : Reader (Option Char)
  | '"' :: rest => some ('"', rest)
  | '\\' :: rest => some ('\\', rest)
  | '/' :: rest => some ('/', rest)
  | 'b' :: rest => some ('\x08', rest)
  | 'f' :: rest => some ('\x0c', rest)
  | 'n' :: rest => some ('\n', rest)
  | 'r' :: rest => some ('\r', rest)
  | 't' :: rest => some ('\t', rest)
  | 'u' :: rest => unicodeEscape rest
  | _ => none

/-- Reads a text after its opening quote; `acc?` are the characters so far, last one first, unless
one of them had no value. The number bounds the characters of the text. -/
def textBody : Nat → (acc? : Option (List Char)) → Reader (Option String)
  | 0, _, _ => none
  | n + 1, acc?, cs =>
    match cs with
    | [] => none
    | '"' :: rest => some (acc?.map fun acc => String.ofList acc.reverse, rest)
    | '\\' :: rest => do
      let (c?, rest) ← escape rest
      textBody n (do return (← c?) :: (← acc?)) rest
    | c :: rest => if c.toNat < 0x20 then none else textBody n (acc?.map (c :: ·)) rest

/-- Reads a text after its opening quote. -/
def text (cs : List Char) : Option (Option String × List Char) :=
  textBody (cs.length + 1) (some []) cs

/-- The digits at the front. -/
def digits (cs : List Char) : List Char × List Char :=
  cs.span Char.isDigit

/-- Digits added to a significand as long as it stays below `2 ^ 64`, with the number of digits that
are left. -/
def accumulate (n : Nat) : List Char → Nat × Nat
  | [] => (n, 0)
  | c :: cs =>
    let next := n * 10 + (c.toNat - 48)
    if next < Decimal.twoTo 64 then accumulate next cs else (n, cs.length + 1)

/-- The double `n · 10 ^ e`: the double nearest to `n`, scaled by the power of ten, through steps of
`1e308` if the number is that small. `none` when it is too large. -/
def scale (n : Nat) (e : Int) : Option Float :=
  let rec go (x : Float) (e : Int) : Nat → Option Float
    | 0 => some x
    | steps + 1 =>
      if e.natAbs ≤ 308 then
        let power := Decimal.nearest 1 e.natAbs
        if 0 ≤ e then
          let y := x * power
          if y.isInf then none else some y
        else some (x / power)
      else if x == 0.0 then some x
      else if 0 ≤ e then none
      else go (x / Decimal.nearest 1 308) (e + 308) steps
  -- a double is zero after three such steps
  go (Decimal.nearest n 0) e 8

/-- Reads an exponent after its letter. -/
def exponent : Reader Int := fun cs =>
  let (negative, cs) := match cs with
    | '+' :: rest => (false, rest)
    | '-' :: rest => (true, rest)
    | rest => (false, rest)
  match digits cs with
  | ([], _) => none
  | (ds, rest) =>
    let e : Nat := ds.foldl (fun n c => n * 10 + (c.toNat - 48)) 0
    some (if negative then -Int.ofNat e else Int.ofNat e, rest)

/-- A double with its sign; without a value if it is too large. -/
def double (negative : Bool) : Option Float → Datum
  | some x => .float (Decimal.signed negative x)
  | none => .unreadable

/-- Reads a number after its sign. -/
def number (negative : Bool) : Reader Datum := fun cs => do
  let (whole, rest) := digits cs
  match whole with
  | [] => none
  | '0' :: _ :: _ => none
  | _ =>
    let (n, dropped) := accumulate 0 whole
    match rest with
    | '.' :: rest =>
      let (fraction, rest) := digits rest
      if fraction.isEmpty then none
      else
        let (m, unused) := accumulate n fraction
        let (e, rest) ← match rest with
          | 'e' :: rest | 'E' :: rest => exponent rest
          | rest => some (0, rest)
        let places : Int := Int.ofNat (fraction.length - unused)
        return (double negative (scale m (Int.ofNat dropped - places + e)), rest)
    | 'e' :: rest | 'E' :: rest =>
      let (e, rest) ← exponent rest
      return (double negative (scale n (Int.ofNat dropped + e)), rest)
    | rest =>
      if dropped ≠ 0 then return (double negative (scale n (Int.ofNat dropped)), rest)
      else if !negative then return (.int n, rest)
      else if n = 0 ∨ Decimal.twoTo 63 < n then return (.float (-(Decimal.nearest n 0)), rest)
      else return (.int (-(n : Int)), rest)

/-- Reads what follows a letter that starts one of the three words. -/
def word : Reader Datum
  | 'n' :: 'u' :: 'l' :: 'l' :: rest => some (.null, rest)
  | 't' :: 'r' :: 'u' :: 'e' :: rest => some (.bool true, rest)
  | 'f' :: 'a' :: 'l' :: 's' :: 'e' :: rest => some (.bool false, rest)
  | _ => none

/-- A list or record, which has no value if it stands too deep. -/
def nested (depth : Nat) (d : Datum) : Datum :=
  if depth ≤ 1 then .unreadable else d

mutual

/-- Reads a value in front of which blanks were skipped. The first number bounds the calls, each of
which takes a character, and the second is the depth that is still allowed. -/
def value : (fuel depth : Nat) → Reader Datum
  | 0, _, _ => none
  | fuel + 1, depth, cs =>
    match cs with
    | '"' :: rest => do
      let (s?, rest) ← text rest
      return ((s?.map .text).getD .unreadable, rest)
    | '[' :: rest => do
      let (d, rest) ← match skip rest with
        | ']' :: rest => some (.list [], rest)
        | rest => items fuel (depth - 1) [] rest
      return (nested depth d, rest)
    | '{' :: rest => do
      let (d, rest) ← match skip rest with
        | '}' :: rest => some (.record [], rest)
        | rest => members fuel (depth - 1) (some []) rest
      return (nested depth d, rest)
    | '-' :: rest => number true rest
    | c :: _ => if c.isDigit then number false cs else word cs
    | [] => none

/-- Reads the items of a list, the first of which is next. -/
def items : (fuel depth : Nat) → List Datum → Reader Datum
  | 0, _, _, _ => none
  | fuel + 1, depth, acc, cs => do
    let (d, rest) ← value fuel depth cs
    match skip rest with
    | ',' :: rest => items fuel depth (d :: acc) (skip rest)
    | ']' :: rest => return (.list (d :: acc).reverse, rest)
    | _ => none

/-- Reads the fields of a record, the first of which is next. A record has no value if one of its
names has none. -/
def members : (fuel depth : Nat) → Option (List (String × Datum)) → Reader Datum
  | 0, _, _, _ => none
  | fuel + 1, depth, acc?, cs => do
    match cs with
    | '"' :: rest =>
      let (name?, rest) ← text rest
      match skip rest with
      | ':' :: rest =>
        let (d, rest) ← value fuel depth (skip rest)
        let acc? := do return (← name?, d) :: (← acc?)
        match skip rest with
        | ',' :: rest => members fuel depth acc? (skip rest)
        | '}' :: rest =>
          return ((acc?.map fun acc => .record acc.reverse).getD .unreadable, rest)
        | _ => none
      | _ => none
    | _ => none

end

/-- Lists and records may be nested this deep, less one. -/
def depthLimit : Nat := 128

/-- The tree that a JSON text stands for, in which something may have no value. -/
def parse? (s : String) : Option Datum :=
  let cs := skip s.toList
  match value (2 * cs.length + 2) depthLimit cs with
  | some (d, rest) => if (skip rest).isEmpty then some d else none
  | none => none

/-- The tree that a JSON text stands for if everything in it has a value. -/
def read? (s : String) : Option Datum :=
  (parse? s).filter Datum.isReadable

end Wiring.Json
