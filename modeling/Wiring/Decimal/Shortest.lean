import Wiring.Decimal.Nearest

/-!
# The shortest decimal that reads back as a double

A finite double is `m · 2 ^ q`. The reals that round to it form an interval around it, whose ends
belong to it exactly when `m` is even. Of the decimals in that interval the one with the fewest
digits is taken, and among those the one nearest to the double.
-/

namespace Wiring.Decimal

/-- A decimal number without sign: `digits · 10 ^ exponent`, where the digits do not end in zero. -/
structure Scaled where
  digits : Nat
  exponent : Int
  deriving Repr, DecidableEq

/-- The significand and exponent of the double with these bits (sign left out). -/
def decode (bits : Nat) : Nat × Int :=
  let fraction : Nat := bits % twoTo 52
  let field : Nat := bits / twoTo 52 % twoTo 11
  if field = 0 then (fraction, -1074) else (fraction + twoTo 52, Int.ofNat field - 1075)

/-- The interval of reals that round to `m · 2 ^ q`, as numerators over one common denominator. -/
structure Interval where
  low : Nat
  value : Nat
  high : Nat
  den : Nat
  closed : Bool

/-- The interval of a positive double. Below a power of two the neighbour is half as far. -/
def interval (m : Nat) (q : Int) : Interval :=
  let below := if m = twoTo 52 ∧ -1074 < q then 1 else 2
  let up := twoTo q.toNat
  ⟨(4 * m - below) * up, 4 * m * up, (4 * m + 2) * up, 4 * twoTo (-q).toNat, m % 2 = 0⟩

/-- Whether `d · 10 ^ k` lies in the interval. -/
def Interval.contains (i : Interval) (d : Nat) (k : Int) : Bool :=
  let x := d * tenTo k.toNat * i.den
  let low := i.low * tenTo (-k).toNat
  let high := i.high * tenTo (-k).toNat
  if i.closed then low ≤ x && x ≤ high else low < x && x < high

/-- The two neighbours of the value among the multiples of `10 ^ k`, the nearer one first. -/
def Interval.neighbours (i : Interval) (k : Int) : List Nat :=
  let num := i.value * tenTo (-k).toNat
  let den := i.den * tenTo k.toNat
  let q := num / den
  if roundDiv num den = q then [q, q + 1] else [q + 1, q]

/-- The decimal of the interval on the coarsest of the grids `10 ^ k`, `10 ^ (k - 1)`, …. -/
def Interval.search (i : Interval) (k : Int) : (steps : Nat) → Scaled
  | 0 => ⟨(i.neighbours k).headD 0, k⟩
  | steps + 1 =>
    match (i.neighbours k).find? fun d => d ≠ 0 && i.contains d k with
    | some d => ⟨d, k⟩
    | none => i.search (k - 1) steps

/-- The digits of a number without the zeros at its end, which move to the exponent. -/
def Scaled.strip (s : Scaled) : (steps : Nat) → Scaled
  | 0 => s
  | steps + 1 =>
    if s.digits % 10 = 0 ∧ s.digits ≠ 0 then Scaled.strip ⟨s.digits / 10, s.exponent + 1⟩ steps
    else s

/-- The shortest decimal that reads back as the positive finite double with these bits. -/
def shortest (bits : Nat) : Scaled :=
  let (m, q) := decode bits
  if m = 0 then ⟨0, 0⟩
  else
    -- a bound on the decimal exponent of the value, from its binary one
    let top : Int := ((m.log2 : Int) + q) * 30103 / 100000 + 2
    (Interval.search (interval m q) top 24).strip 24

end Wiring.Decimal
