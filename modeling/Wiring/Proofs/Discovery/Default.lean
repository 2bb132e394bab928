import Mathlib.Algebra.Ring.Nat
import Wiring.Discovery.Default
import Wiring.Proofs.Decimal.Reader

/-!
# Defaults that are written out

Whatever the literal, unless there is a double in it, some expression writes it (`Expr.Writes`): a
word, a number with a minus sign in front of it if it is negative, a text, or a list of such
expressions, each of them wrapped as often as one likes. A default that is written so is read as
this literal, and wrapping makes no difference to what is read (`Expr.default?_of_writes`).

The least whole number is the exception. The number behind the minus sign is read on its own, and
that of the least one is out of bounds, so no literal with it can be written.
-/

namespace Wiring

namespace Literal

mutual

/-- Whether something in a literal, other than a list, has a property. -/
def anyLeaf (p : Literal → Bool) : Literal → Bool
  | list items => anyLeafOfItems p items
  | null => p null
  | bool b => p (bool b)
  | int n => p (int n)
  | float x => p (float x)
  | str s => p (str s)

/-- `anyLeaf` over the items of a list. -/
def anyLeafOfItems (p : Literal → Bool) : List Literal → Bool
  | [] => false
  | v :: rest => v.anyLeaf p || anyLeafOfItems p rest

end

/-- Whether a literal is a double. -/
def isFloat : Literal → Bool
  | float _ => true
  | _ => false

/-- Whether a literal is the least whole number. -/
def isLeast : Literal → Bool
  | int n => n == Int64.minValue
  | _ => false

end Literal

namespace Source.Expr

/-- An expression with parentheses, with the wrapper of a present value or with a call without
arguments, each any number of times. -/
inductive Wrapped (e : Expr) : Expr → Prop
  | bare : Wrapped e e
  | parenthesized {e' : Expr} : Wrapped e e' → Wrapped e (.parenthesized e')
  | present {e' : Expr} {p : Path} :
    p.isWord "Some" → Wrapped e e' → Wrapped e (.call (.path p) [e'])
  | called {e' : Expr} : Wrapped e e' → Wrapped e (.methodCall e' [])

/-- How literals are written. Everything may be wrapped, also what a minus sign stands in front of
and the items of a list. -/
inductive Writes : Expr → Literal → Prop
  | null {p : Path} : p.isWord "None" → Writes (.path p) .null
  | truth (b : Bool) : Writes (.truth b) (.bool b)
  | natural {n : Int64} : 0 ≤ n.toInt → Writes (.literal (.natural n.toInt.natAbs)) (.int n)
  | negative {n : Int64} {e : Expr} : n.toInt < 0 →
      Wrapped (.literal (.natural n.toInt.natAbs)) e → Writes (.negated e) (.int n)
  | text (s : String) : Writes (.literal (.text s)) (.str s)
  | array {items : List (Expr × Literal)} : (∀ x ∈ items, Writes x.1 x.2) →
      Writes (.array (items.map (·.1))) (.list (items.map (·.2)))
  | wrapped {e e' : Expr} {v : Literal} : Writes e v → Wrapped e e' → Writes e' v

section
variable {e e' : Expr} {v : Literal}

/-! ## What can be written -/

mutual

/-- A literal without a double can be written. -/
theorem exists_writes : ∀ {v : Literal}, v.anyLeaf Literal.isFloat = false → ∃ e, Writes e v
  | .null, _ => ⟨_, .null (p := { root := .plain, names := ["None"] }) rfl⟩
  | .bool b, _ => ⟨_, .truth b⟩
  | .str s, _ => ⟨_, .text s⟩
  | .int n, _ => by
    rcases Int.lt_or_le n.toInt 0 with hneg | hpos
    · exact ⟨_, .negative hneg .bare⟩
    · exact ⟨_, .natural hpos⟩
  | .list items, h => by
    obtain ⟨written, rfl, hwritten⟩ := exists_writes_items h
    exact ⟨_, .array hwritten⟩

/-- Items without doubles can be written one by one. -/
theorem exists_writes_items : ∀ {items : List Literal},
    Literal.anyLeafOfItems Literal.isFloat items = false →
      ∃ written : List (Expr × Literal), written.map (·.2) = items ∧ ∀ x ∈ written, Writes x.1 x.2
  | [], _ => ⟨[], rfl, nofun⟩
  | v :: rest, h => by
    obtain ⟨hv, hrest⟩ := Bool.or_eq_false_iff.1 h
    obtain ⟨e, he⟩ := exists_writes hv
    obtain ⟨written, rfl, hwritten⟩ := exists_writes_items hrest
    exact ⟨(e, v) :: written, rfl, List.forall_mem_cons.2 ⟨he, hwritten⟩⟩

end

/-! ## What is read -/

/-- Wrapping makes no difference to the literal that is read. -/
theorem literal?_of_wrapped (h : Wrapped e e') : e'.literal? = e.literal? := by
  induction h with
  | bare => rfl
  | parenthesized _ ih => rw [literal?, ih]
  | present hp _ ih => rw [literal?, if_pos hp, ih]
  | called _ ih => rw [literal?, ih]

/-- A natural number is read if it has 63 bits. -/
theorem literal?_natural {n : Nat} :
    (literal (.natural n)).literal? = if n < 2 ^ 63 then some (.int (Int64.ofNat n)) else none := by
  have hbounds : Decimal.isInt64 n = true ↔ n < 2 ^ 63 := by
    rw [Decimal.isInt64, Decimal.fits_iff]
    omega
  rw [literal?]
  exact if_congr hbounds rfl rfl

/-- All numbers of 64 bits but the least have a magnitude of 63 bits. -/
theorem natAbs_lt_of_ne {n : Int64} (hn : n ≠ Int64.minValue) : n.toInt.natAbs < 2 ^ 63 := by
  have hle := n.le_toInt
  have hlt := n.toInt_lt
  have hleast : n.toInt ≠ -2 ^ 63 := fun h =>
    hn (Int64.toInt_inj.1 (h.trans Int64.toInt_minValue.symm))
  omega

/-- The least number of 64 bits is negative. -/
theorem ne_minValue_of_nonneg {n : Int64} (hn : 0 ≤ n.toInt) : n ≠ Int64.minValue := by
  rintro rfl
  exact absurd hn (by decide)

/-- A number that is not negative is read from its digits. -/
theorem literal?_of_nonneg {n : Int64} (hn : 0 ≤ n.toInt) :
    (literal (.natural n.toInt.natAbs)).literal? = some (.int n) := by
  rw [literal?_natural, if_pos (natAbs_lt_of_ne (ne_minValue_of_nonneg hn)),
    ← Int64.ofInt_eq_ofNat, Int.natAbs_of_nonneg hn, Int64.ofInt_toInt]

/-- Of a negative number the part behind the sign is in bounds, unless the number is the least one.
-/
theorem literal?_of_neg {n : Int64} (hn : n.toInt < 0)
    (he : Wrapped (literal (.natural n.toInt.natAbs)) e) :
    (negated e).literal? = if n = Int64.minValue then none else some (.int n) := by
  rw [literal?, literal?_of_wrapped he, literal?_natural]
  by_cases hleast : n = Int64.minValue
  · rw [if_pos hleast, if_neg (by rw [hleast]; decide)]
  · have hmagnitude : Int64.ofNat n.toInt.natAbs = -n := by
      rw [← Int64.ofInt_eq_ofNat, Int.ofNat_natAbs_of_nonpos (by omega), Int64.ofInt_neg,
        Int64.ofInt_toInt]
    rw [if_neg hleast, if_pos (natAbs_lt_of_ne hleast), hmagnitude]
    exact congrArg (fun n => some (Literal.int n)) (Int64.neg_neg (a := n))

/-- The items of a list are read if each of them is. -/
theorem literals?_of_items {items : List (Expr × Literal)}
    (h : ∀ x ∈ items, x.1.literal? = if x.2.anyLeaf Literal.isLeast then none else some x.2) :
    literals? (items.map (·.1)) =
      if Literal.anyLeafOfItems Literal.isLeast (items.map (·.2)) then none
      else some (items.map (·.2)) := by
  induction items with
  | nil => rfl
  | cons x rest ih =>
    obtain ⟨hx, hrest⟩ := List.forall_mem_cons.1 h
    rw [List.map_cons, List.map_cons, literals?, hx, ih hrest, Literal.anyLeafOfItems]
    cases x.2.anyLeaf Literal.isLeast <;>
      cases Literal.anyLeafOfItems Literal.isLeast (rest.map (·.2)) <;> rfl

/-- An expression that writes a literal is read as this literal, if the least number is not in it.
-/
theorem literal?_of_writes (h : Writes e v) :
    e.literal? = if v.anyLeaf Literal.isLeast then none else some v := by
  induction h with
  | null hp => rw [literal?, if_pos hp]; rfl
  | truth b => rfl
  | natural hn =>
    rw [literal?_of_nonneg hn, Literal.anyLeaf, Literal.isLeast,
      beq_false_of_ne (ne_minValue_of_nonneg hn)]
    rfl
  | negative hn he =>
    rw [literal?_of_neg hn he, Literal.anyLeaf, Literal.isLeast]
    exact if_congr beq_iff_eq.symm rfl rfl
  | text s => rfl
  | array _ ih =>
    rw [literal?, literals?_of_items ih, Literal.anyLeaf]
    split <;> rfl
  | wrapped _ hwrapped ih => rw [literal?_of_wrapped hwrapped, ih]

/-- What writes a literal is taken for a constant neither as it is nor wrapped. -/
theorem constant?_of_writes (h : Writes e v) (owner : String) : e.constant? owner = none := by
  induction h with
  | @null p hp =>
    have hnames : p.names = ["None"] := by
      rw [Path.isWord, Bool.and_eq_true, Bool.and_eq_true] at hp
      exact eq_of_beq hp.1.2
    rw [constant?, hnames]
    rfl
  | wrapped _ hwrapped ih =>
    cases hwrapped with
    | bare => exact ih
    | parenthesized | present | called => rfl
  | truth | natural | negative | text | array => rfl

/-- Every literal without a double can be written, and the default that is written so is read as
this literal, unless the least whole number is in it: then it is refused. Neither depends on how
often the expression is wrapped. -/
theorem default?_of_writes (owner : String) :
    (∀ v : Literal, v.anyLeaf Literal.isFloat = false → ∃ e, Writes e v) ∧
      ∀ e v, Writes e v →
        e.default? owner =
            (if v.anyLeaf Literal.isLeast then none else some (.literal v)) ∧
          ∀ e', Wrapped e e' → e'.default? owner = e.default? owner := by
  have hread {e : Expr} {v : Literal} (h : Writes e v) :
      e.default? owner = if v.anyLeaf Literal.isLeast then none else some (.literal v) := by
    rw [default?, constant?_of_writes h, literal?_of_writes h]
    cases v.anyLeaf Literal.isLeast <;> rfl
  refine ⟨fun v => exists_writes, fun e v h => ⟨hread h, fun e' hwrapped => ?_⟩⟩
  rw [hread h, hread (h.wrapped hwrapped)]

/-- The items of the expression `[Some(-(5)), None, ["low".into()]].to_vec()`, with the literals
that they write. -/
def gaugeItems : List (Expr × Literal) :=
  [(.call (.path { root := .plain, names := ["Some"] })
      [.negated (.parenthesized (.literal (.natural 5)))], .int (-5)),
    (.path { root := .plain, names := ["None"] }, .null),
    (.array [.methodCall (.literal (.text "low")) []], .list [.str "low"])]

/-- The items of a gauge are written out, and read as its default. -/
theorem default?_of_writes_gauge :
    Writes (.methodCall (.array (gaugeItems.map (·.1))) []) (.list (gaugeItems.map (·.2))) ∧
      (Expr.methodCall (.array (gaugeItems.map (·.1))) []).default? "Gauge" =
        some (.literal (.list [.int (-5), .null, .list [.str "low"]])) ∧
      (Expr.parenthesized (.methodCall (.array (gaugeItems.map (·.1))) [])).default? "Gauge" =
        some (.literal (.list [.int (-5), .null, .list [.str "low"]])) := by
  have hfive : Writes (.negated (.parenthesized (.literal (.natural 5)))) (.int (-5)) :=
    .negative (by decide) (.parenthesized .bare)
  have hlow : ∀ x ∈ [(Expr.methodCall (.literal (.text "low")) [], Literal.str "low")],
      Writes x.1 x.2 :=
    List.forall_mem_singleton.2 (.wrapped (.text "low") (.called .bare))
  have hitems : ∀ x ∈ gaugeItems, Writes x.1 x.2 :=
    List.forall_mem_cons.2 ⟨.wrapped hfive (.present rfl .bare),
      List.forall_mem_cons.2 ⟨.null rfl, List.forall_mem_singleton.2 (.array hlow)⟩⟩
  have hwrites : Writes (.methodCall (.array (gaugeItems.map (·.1))) [])
      (.list (gaugeItems.map (·.2))) := .wrapped (.array hitems) (.called .bare)
  obtain ⟨hread, hwrapped⟩ := (default?_of_writes "Gauge").2 _ _ hwrites
  have hleast : (Literal.list (gaugeItems.map (·.2))).anyLeaf Literal.isLeast = false := rfl
  rw [hleast] at hread
  exact ⟨hwrites, hread, (hwrapped _ (.parenthesized .bare)).trans hread⟩

/-- The least whole number is written like any other, and refused. -/
theorem not_default?_of_least :
    Writes (.negated (.literal (.natural 9223372036854775808))) (.int Int64.minValue) ∧
      ∀ owner, (Expr.negated (.literal (.natural 9223372036854775808))).default? owner = none := by
  have hneg : Int64.minValue.toInt < 0 := by decide
  have hbare : Wrapped (.literal (.natural Int64.minValue.toInt.natAbs))
      (.literal (.natural 9223372036854775808)) := .bare
  refine ⟨.negative hneg hbare, fun owner => ?_⟩
  rw [default?, literal?_of_neg hneg hbare]
  rfl

end

end Source.Expr

end Wiring
