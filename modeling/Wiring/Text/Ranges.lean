/-!
# Sets of code points as ranges

A property of characters is a sorted array of disjoint ranges of code points. Membership is a
binary search (`Ranges.mem`), and sets are joined by sorting their ranges and merging those that
meet (`Ranges.ofSpans`). Tables are written as lines of hexadecimal words, `AA`, `41-5A`, or
`100-12E/2` for every second code point, and read by `Ranges.ofLines`.
-/

namespace Wiring.Text

/-- A set of code points: closed ranges in ascending order, none touching the next. -/
abbrev Ranges := Array (Nat × Nat)

namespace Ranges

/-! ## Tables -/

/-- The value of one hexadecimal digit, upper or lower case. -/
def hexValue? (c : Char) : Option Nat :=
  if '0' ≤ c ∧ c ≤ '9' then some (c.toNat - 48)
  else if 'a' ≤ c ∧ c ≤ 'f' then some (c.toNat - 87)
  else if 'A' ≤ c ∧ c ≤ 'F' then some (c.toNat - 55)
  else none

/-- The number a run of hexadecimal digits stands for; `none` on any other character. -/
def hexNumber? (digits : List Char) : Option Nat :=
  digits.foldlM (fun n c => (hexValue? c).map (16 * n + ·)) 0

/-- The first, the last and the step of the code points that a word of a table stands for. -/
def progression? (word : List Char) : Option (Nat × Nat × Nat) := do
  let (low, high) := word.span (· != '-')
  let (high, step) := (high.drop 1).span (· != '/')
  let first ← hexNumber? low
  let last ← if high.isEmpty then some first else hexNumber? high
  let step ← if step.isEmpty then some 1 else hexNumber? (step.drop 1)
  return (first, last, step)

/-- The ranges that a word of a table stands for; a word of another form stands for none. -/
def spansOfWord (word : String) : List (Nat × Nat) :=
  match progression? word.toList with
  | none => []
  | some (first, last, step) =>
    if step ≤ 1 then [(first, last)]
    else (List.range ((last - first) / step + 1)).map fun k =>
      (first + k * step, first + k * step)

/-- The words of a line, which single blanks separate. -/
def words (line : String) : List String :=
  let step (c : Char) (acc : List Char × List String) : List Char × List String :=
    if c = ' ' then ([], if acc.1.isEmpty then acc.2 else String.ofList acc.1 :: acc.2)
    else (c :: acc.1, acc.2)
  let (last, rest) := line.toList.foldr step ([], [])
  if last.isEmpty then rest else String.ofList last :: rest

/-- The set written in table lines, whose words ascend. -/
def ofLines (lines : List String) : Ranges :=
  (lines.flatMap fun line => (words line).flatMap spansOfWord).toArray

/-! ## Membership -/

/-- Whether `n` lies in one of the ranges with index in `[low, high)`, which a binary search
decides because the ranges ascend. -/
def memBetween (r : Ranges) (n low high : Nat) : Bool :=
  if low < high then
    let mid := (low + high) / 2
    match r[mid]? with
    | none => false
    | some (a, b) =>
      if n < a then memBetween r n low mid
      else if b < n then memBetween r n (mid + 1) high
      else true
  else false
termination_by high - low

/-- Whether the code point `n` is in the set. -/
def mem (r : Ranges) (n : Nat) : Bool :=
  memBetween r n 0 r.size

/-- Whether the character is in the set. -/
def has (r : Ranges) (c : Char) : Bool :=
  r.mem c.toNat

/-! ## Operations -/

/-- The last code point there is. -/
def lastPoint : Nat := 0x10FFFF

/-- Puts the range from `a` to `b` in front of ranges that start no earlier, one range where they
overlap or touch. -/
def join (a b : Nat) : List (Nat × Nat) → List (Nat × Nat)
  | [] => [(a, b)]
  | (c, d) :: rest => if c ≤ b + 1 then join a (max b d) rest else (a, b) :: join c d rest

/-- The set of the code points in some ranges, in any order. -/
def ofSpans (spans : List (Nat × Nat)) : Ranges :=
  match spans.mergeSort fun r s => r.1 ≤ s.1 with
  | [] => #[]
  | (a, b) :: rest => (join a b rest).toArray

/-- The ranges between ascending ranges, from `start` on. -/
def gaps (start : Nat) : List (Nat × Nat) → List (Nat × Nat)
  | [] => if start ≤ lastPoint then [(start, lastPoint)] else []
  | (a, b) :: rest =>
    if start < a then (start, a - 1) :: gaps (b + 1) rest else gaps (b + 1) rest

/-- The code points that are not in the set. -/
def compl (r : Ranges) : Ranges :=
  (gaps 0 r.toList).toArray

/-- The members of any of some sets. -/
def unions (sets : List Ranges) : Ranges :=
  ofSpans (sets.flatMap Array.toList)

/-- The members of either set. -/
def union (a b : Ranges) : Ranges :=
  unions [a, b]

/-- The members of both sets. -/
def inter (a b : Ranges) : Ranges :=
  (union a.compl b.compl).compl

/-- The members of the first set that are not in the second. -/
def diff (a b : Ranges) : Ranges :=
  a.inter b.compl

end Ranges

end Wiring.Text
