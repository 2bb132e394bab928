import Wiring.Decimal.Shortest

/-!
# Ways to write a double

Every way writes the shortest digits that read back. `Format` holds what differs: where
positional writing ends, whether a whole number keeps a fraction, and the words for what is no
number.
-/

namespace Wiring.Decimal

/-- What one way of writing doubles decides. `low` and `high` bound the place of the decimal point,
counted from the first digit, within which a number is written by position. -/
structure Format where
  low : Int
  high : Int
  keepFraction : Bool

/-- Never an exponent, and no fraction on a whole number. -/
def plain : Format := ⟨-400, 400, false⟩

/-- Positional from `1e-5` up to below `1e16`, and a fraction on every number so written. -/
def dataText : Format := ⟨-4, 16, true⟩

/-- Positional from `1e-4` up to below `1e16`, and a fraction on every number so written. -/
def inspected : Format := ⟨-3, 16, true⟩

/-- Decimal digits of a number. -/
def digitsOf (n : Nat) : List Char :=
  Nat.toDigits 10 n

/-- A decimal written by position. -/
def positional (keepFraction : Bool) (s : Scaled) : List Char :=
  let ds := digitsOf s.digits
  if 0 ≤ s.exponent then
    ds ++ List.replicate s.exponent.toNat '0' ++ (if keepFraction then ['.', '0'] else [])
  else
    let places := (-s.exponent).toNat
    let padded := List.replicate (places + 1 - ds.length) '0' ++ ds
    padded.take (padded.length - places) ++ '.' :: padded.drop (padded.length - places)

/-- A decimal written with one digit before the point and an exponent. -/
def scientific (s : Scaled) : List Char :=
  match digitsOf s.digits with
  | [] => []
  | d :: rest =>
    let e : Int := s.exponent + rest.length
    d :: (if rest.isEmpty then [] else '.' :: rest) ++
      'e' :: (if e < 0 then '-' :: digitsOf (-e).toNat else digitsOf e.toNat)

/-- A double as the format writes it. -/
def Format.write (f : Format) (x : Float) : String :=
  let bits := x.toBits.toNat
  let sign := if twoTo 63 ≤ bits then ['-'] else []
  let magnitude := bits % twoTo 63
  if infinityBits < magnitude then "NaN"
  else if magnitude = infinityBits then String.ofList (sign ++ ['i', 'n', 'f'])
  else
    let s := shortest magnitude
    let point : Int := (digitsOf s.digits).length + s.exponent
    let body :=
      if s.digits = 0 then positional f.keepFraction s
      else if f.low ≤ point ∧ point ≤ f.high then positional f.keepFraction s
      else scientific s
    String.ofList (sign ++ body)

end Wiring.Decimal
