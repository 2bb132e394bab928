/-!
# Whole numbers of a fixed width, and the double nearest to a decimal

Powers of the two bases tell which whole numbers have a form of a fixed width.

A decimal number is a whole number of powers of ten. The double nearest to it is found in exact
arithmetic: scale the quotient so that 53 bits stand before the binary point, round them to the
nearest whole number with ties to even, and put the exponent in front.
-/

namespace Wiring.Decimal

/-- A power of two. -/
def twoTo (k : Nat) : Nat :=
  Nat.pow 2 k

/-- A power of ten. -/
def tenTo (k : Nat) : Nat :=
  Nat.pow 10 k

/-- Whether a whole number can be written with so many bits and a sign, negative numbers as the
complement of two. -/
def fits (bits : Nat) (n : Int) : Bool :=
  -Int.ofNat (twoTo bits) ≤ n && n < Int.ofNat (twoTo bits)

/-- Whether a whole number has 64 bits with sign. -/
def isInt64 (n : Int) : Bool :=
  fits 63 n

/-- Whether a whole number has 32 bits with sign. -/
def isInt32 (n : Int) : Bool :=
  fits 31 n

/-- The whole number nearest to `num / den`, a tie going to the even neighbour. -/
def roundDiv (num den : Nat) : Nat :=
  let q := num / den
  let r := num % den
  if 2 * r < den then q
  else if den < 2 * r then q + 1
  else if q % 2 = 0 then q else q + 1

/-- The bits of positive infinity. -/
def infinityBits : Nat := 0x7FF0000000000000

/-- `num / den` as `num' / den'` times a power of two, the power being `2 ^ e`. -/
def scaleBy (num den : Nat) (e : Int) : Nat × Nat :=
  if 0 ≤ e then (num, den <<< e.toNat) else (num <<< (-e).toNat, den)

/-- The least exponent `e ≥ -1074` for which `num / den / 2 ^ e` is below `2 ^ 53`. -/
def exponentFor (num den : Nat) : Int :=
  let guess : Int := max (-1074) ((num.log2 : Int) - den.log2 - 53)
  let (n, d) := scaleBy num den guess
  if n < d <<< 53 then guess else guess + 1

/-- The bits of the double nearest to the positive quotient `num / den`; beyond the largest double
they are those of infinity. -/
def nearestBits (num den : Nat) : Nat :=
  if num = 0 then 0
  else
    let e := exponentFor num den
    let (n, d) := scaleBy num den e
    min infinityBits ((e + 1074).toNat * twoTo 52 + roundDiv n d)

/-- The double nearest to `m · 10 ^ e`. -/
def nearest (m : Nat) (e : Int) : Float :=
  -- outside these bounds every non-zero decimal is infinite or rounds to zero
  let bits :=
    if m = 0 then 0
    else
      let size : Int := (m.log2 : Int) * 3 / 10 + e
      if 400 < size then infinityBits
      else if size < -800 then 0
      else if 0 ≤ e then nearestBits (m * tenTo e.toNat) 1
      else nearestBits m (tenTo (-e).toNat)
  Float.ofBits (UInt64.ofNat bits)

/-- A double with the sign given. -/
def signed (negative : Bool) (x : Float) : Float :=
  if negative then -x else x

end Wiring.Decimal
