import Wiring.Decimal.Nearest

/-!
# Reading numbers from plain texts

The texts of path segments and of environment variables. A whole number is digits with an optional
sign; a double may also have a fraction and an exponent, or be one of the words for infinity and for
what is no number.
-/

namespace Wiring.Decimal

/-- The value of a run of digits. -/
def valueOf (digits : List Char) : Nat :=
  digits.foldl (fun n c => n * 10 + (c.toNat - 48)) 0

/-- A text without its sign, and whether the sign is a minus. -/
def cutSign : List Char → Bool × List Char
  | '-' :: cs => (true, cs)
  | '+' :: cs => (false, cs)
  | cs => (false, cs)

/-- The whole number that a text spells. -/
def int? (s : String) : Option Int :=
  let (negative, digits) := cutSign s.toList
  if digits.isEmpty || !digits.all Char.isDigit then none
  else some (if negative then -Int.ofNat (valueOf digits) else Int.ofNat (valueOf digits))

/-- The whole number of 64 bits with sign that a text spells. -/
def int64? (s : String) : Option Int64 :=
  match int? s with
  | some n => if isInt64 n then some (Int64.ofInt n) else none
  | none => none

/-- The whole number from zero up to `bound` that a text spells; it has no minus sign. -/
def natUpTo? (bound : Nat) (s : String) : Option Nat :=
  if s.toList.head? == some '-' then none
  else match int? s with
    | some n => if n ≤ bound then some n.toNat else none
    | none => none

/-- The truth value that a text spells. -/
def bool? : String → Option Bool
  | "true" => some true
  | "false" => some false
  | _ => none

/-- An exponent with its letter, or nothing. -/
def exponent? : List Char → Option Int
  | [] => some 0
  | 'e' :: cs | 'E' :: cs =>
    let (negative, digits) := cutSign cs
    if digits.isEmpty || !digits.all Char.isDigit then none
    else some (if negative then -Int.ofNat (valueOf digits) else Int.ofNat (valueOf digits))
  | _ => none

/-- The digits after a point, if there is one, and what follows. -/
def fractionOf : List Char → List Char × List Char
  | '.' :: cs => cs.span Char.isDigit
  | cs => ([], cs)

/-- The decimal without a sign that a text spells: `(m, e)` is `m · 10 ^ e`. -/
def decimal? (cs : List Char) : Option (Nat × Int) :=
  let (whole, rest) := cs.span Char.isDigit
  let (fraction, rest) := fractionOf rest
  if whole.isEmpty && fraction.isEmpty then none
  else (exponent? rest).map fun e => (valueOf (whole ++ fraction), e - Int.ofNat fraction.length)

/-- The double that a text spells. -/
def float? (s : String) : Option Float :=
  let (negative, cs) := cutSign s.toList
  match String.ofList (cs.map Char.toLower) with
  | "inf" | "infinity" => some (signed negative (Float.ofBits (UInt64.ofNat infinityBits)))
  | "nan" => some (signed negative (Float.ofBits 0x7FF8000000000000))
  | _ => (decimal? cs).map fun (m, e) => signed negative (nearest m e)

end Wiring.Decimal
