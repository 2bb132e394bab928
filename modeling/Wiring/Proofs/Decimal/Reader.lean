import Mathlib.Algebra.Ring.Int.Defs
import Mathlib.Data.List.TakeDrop
import Wiring.Decimal.Reader

/-!
# Texts of numbers

What fits into a form of a fixed width is told by the powers of two, and keeps its value there. A
text is read as a whole number exactly if it is one or more digits, with or without a sign
(`int?_eq_some_iff`), and as a double exactly if it is a word for infinity or for what is no number,
or digits with at most one point among them and with or without an exponent (`isSome_float?_iff`).
-/

namespace Wiring.Decimal

/-! ## Bounds -/

section
variable {bits : Nat} {n : Int}

/-- What fits lies between a power of two and its negative. -/
theorem fits_iff : fits bits n = true ↔ -2 ^ bits ≤ n ∧ n < 2 ^ bits := by
  have htwo : Int.ofNat (twoTo bits) = 2 ^ bits := Int.natCast_pow 2 bits
  rw [fits, Bool.and_eq_true, decide_eq_true_iff, decide_eq_true_iff, htwo]

/-- A whole number that has 32 bits keeps its value in them. -/
theorem toInt_ofInt_of_isInt32 (h : isInt32 n = true) : (Int32.ofInt n).toInt = n :=
  Int32.toInt_ofInt_of_le (fits_iff.1 h).1 (fits_iff.1 h).2

end

/-! ## Signs and digits -/

/-- What stands for a sign, which may be left out; `true` is a minus. -/
inductive IsSign : Bool → List Char → Prop
  | minus : IsSign true ['-']
  | plus : IsSign false ['+']
  | none : IsSign false []

/-- One or more digits. -/
def AreDigits (cs : List Char) : Prop :=
  cs ≠ [] ∧ ∀ c ∈ cs, c.isDigit = true

section
variable {negative : Bool} {sign digits cs : List Char} {c : Char}

/-- What is cut off is a sign. -/
theorem exists_isSign_cutSign (cs : List Char) :
    ∃ sign, IsSign (cutSign cs).1 sign ∧ cs = sign ++ (cutSign cs).2 := by
  rw [cutSign.eq_def]
  split
  · exact ⟨_, .minus, rfl⟩
  · exact ⟨_, .plus, rfl⟩
  · exact ⟨_, .none, rfl⟩

/-- A sign is cut off from what does not begin with one. -/
theorem cutSign_append (h : IsSign negative sign) (hcs : ∀ c ∈ cs.head?, c ≠ '-' ∧ c ≠ '+') :
    cutSign (sign ++ cs) = (negative, cs) := by
  cases h with
  | minus | plus => rfl
  | none =>
    rw [List.nil_append, cutSign.eq_def]
    split
    · exact absurd rfl (hcs '-' rfl).1
    · exact absurd rfl (hcs '+' rfl).2
    · rfl

/-- No digit is a sign. -/
theorem ne_sign_of_isDigit (h : c.isDigit = true) : c ≠ '-' ∧ c ≠ '+' := by
  constructor <;>
  · rintro rfl
    exact absurd h (by decide)

/-- Digits do not begin with a sign. -/
theorem AreDigits.head_ne_sign (h : AreDigits cs) : ∀ c ∈ cs.head?, c ≠ '-' ∧ c ≠ '+' :=
  fun c hc => ne_sign_of_isDigit (h.2 c (List.mem_of_mem_head? hc))

/-- The test of the readers for one or more digits. -/
theorem areDigits_iff :
    (digits.isEmpty || !digits.all Char.isDigit) = false ↔ AreDigits digits := by
  rw [AreDigits, Bool.or_eq_false_iff, Bool.not_eq_false', List.all_eq_true, ne_eq,
    ← List.isEmpty_iff, Bool.not_eq_true]

/-- The digits at the beginning of a text are all those before what is no digit. -/
theorem span_isDigit (hdigits : ∀ c ∈ digits, c.isDigit = true)
    (hcs : ∀ c ∈ cs.head?, c.isDigit = false) :
    (digits ++ cs).span Char.isDigit = (digits, cs) := by
  rw [List.span_eq_takeWhile_dropWhile, List.takeWhile_append_of_pos hdigits,
    List.dropWhile_append_of_pos hdigits]
  cases cs with
  | nil => rw [List.takeWhile_nil, List.append_nil, List.dropWhile_nil]
  | cons c cs =>
    have hc := hcs c rfl
    rw [List.takeWhile_cons_of_neg (by simp [hc]), List.append_nil,
      List.dropWhile_cons_of_neg (by simp [hc])]

/-- A text begins with digits, and no other follows them. -/
theorem exists_isDigit_append (cs : List Char) : ∃ digits rest, cs = digits ++ rest ∧
    (∀ c ∈ digits, c.isDigit = true) ∧ ∀ c ∈ rest.head?, c.isDigit = false := by
  induction cs with
  | nil => exact ⟨[], [], rfl, nofun, nofun⟩
  | cons c cs ih =>
    cases hc : c.isDigit with
    | false => exact ⟨[], c :: cs, rfl, nofun, fun d hd => Option.some.inj hd ▸ hc⟩
    | true =>
      obtain ⟨digits, rest, rfl, hdigits, hrest⟩ := ih
      exact ⟨c :: digits, rest, rfl, List.forall_mem_cons.2 ⟨hc, hdigits⟩, hrest⟩

end

/-! ## Whole numbers -/

/-- A text is a whole number: digits with or without a sign. -/
inductive IsInt : List Char → Int → Prop
  | natural {sign digits : List Char} : IsSign false sign → AreDigits digits →
      IsInt (sign ++ digits) (valueOf digits)
  | negative {sign digits : List Char} : IsSign true sign → AreDigits digits →
      IsInt (sign ++ digits) (-valueOf digits)

/-- A text is read as the whole number that it is. -/
theorem int?_eq_some_iff {s : String} {n : Int} : int? s = some n ↔ IsInt s.toList n := by
  rw [int?]
  constructor
  · intro h
    obtain ⟨sign, hsign, heq⟩ := exists_isSign_cutSign s.toList
    rcases hcut : cutSign s.toList with ⟨negative, digits⟩
    rw [hcut] at h hsign heq
    dsimp only at h hsign heq
    split at h
    · cases h
    · next hdigits =>
      have hdigits := areDigits_iff.1 (Bool.eq_false_iff.2 hdigits)
      rw [heq]
      cases negative with
      | true =>
        cases h
        exact .negative hsign hdigits
      | false =>
        cases h
        exact .natural hsign hdigits
  · intro h
    generalize s.toList = cs at h
    cases h with
    | natural hsign hdigits | negative hsign hdigits =>
      rw [cutSign_append hsign hdigits.head_ne_sign]
      dsimp only
      rw [areDigits_iff.2 hdigits]
      rfl

/-- A text is read as a whole number of 64 bits exactly if it is one. -/
theorem isSome_int64?_iff {s : String} :
    (int64? s).isSome = true ↔ ∃ n, IsInt s.toList n ∧ -2 ^ 63 ≤ n ∧ n < 2 ^ 63 := by
  simp only [← int?_eq_some_iff, ← fits_iff]
  rw [int64?]
  cases int? s with
  | none => simp
  | some n =>
    simp only [isInt64, Option.some.injEq, exists_eq_left']
    by_cases hfits : fits 63 n = true <;> simp [hfits]

/-! ## Doubles -/

/-- An exponent with its letter, or nothing. -/
inductive IsExponent : List Char → Prop
  | none : IsExponent []
  | some {letter : Char} {negative : Bool} {sign digits : List Char} : letter = 'e' ∨ letter = 'E' →
      IsSign negative sign → AreDigits digits → IsExponent (letter :: (sign ++ digits))

/-- A decimal without a sign: a digit at least, at most one point, and perhaps an exponent. -/
inductive IsDecimal : List Char → Prop
  | whole {whole exponent : List Char} : AreDigits whole → IsExponent exponent →
      IsDecimal (whole ++ exponent)
  | fraction {whole fraction exponent : List Char} : AreDigits (whole ++ fraction) →
      IsExponent exponent → IsDecimal (whole ++ '.' :: (fraction ++ exponent))

/-- The words for infinity and for what is no number. -/
def words : List String :=
  ["inf", "infinity", "nan"]

/-- A text is a double: a word for infinity or for what is no number, or a decimal. -/
inductive IsFloat : List Char → Prop
  | word {negative : Bool} {sign cs : List Char} : IsSign negative sign →
      String.ofList (cs.map Char.toLower) ∈ words → IsFloat (sign ++ cs)
  | decimal {negative : Bool} {sign cs : List Char} : IsSign negative sign → IsDecimal cs →
      IsFloat (sign ++ cs)

section
variable {cs : List Char}

/-- After its letter an exponent is a whole number. -/
theorem isSome_exponent?_cons {letter : Char} (hletter : letter = 'e' ∨ letter = 'E') :
    (exponent? (letter :: cs)).isSome = true ↔ AreDigits (cutSign cs).2 := by
  have hread : exponent? (letter :: cs) =
      if (cutSign cs).2.isEmpty || !(cutSign cs).2.all Char.isDigit then none
      else some (if (cutSign cs).1 then -Int.ofNat (valueOf (cutSign cs).2)
        else Int.ofNat (valueOf (cutSign cs).2)) := by
    rcases hletter with rfl | rfl <;> rfl
  rw [hread, ← areDigits_iff]
  split
  · simp [*]
  · simp [*]

/-- An exponent is read exactly if it is one. -/
theorem isSome_exponent?_iff : (exponent? cs).isSome = true ↔ IsExponent cs := by
  constructor
  · intro h
    have hafter {letter : Char} {rest : List Char} (hletter : letter = 'e' ∨ letter = 'E')
        (h : (exponent? (letter :: rest)).isSome = true) : IsExponent (letter :: rest) := by
      obtain ⟨sign, hsign, heq⟩ := exists_isSign_cutSign rest
      rw [heq]
      exact .some hletter hsign ((isSome_exponent?_cons hletter).1 h)
    rw [exponent?.eq_def] at h
    split at h
    · exact .none
    · exact hafter (.inl rfl) h
    · exact hafter (.inr rfl) h
    · cases h
  · intro h
    cases h with
    | none => rfl
    | some hletter hsign hdigits =>
      rw [isSome_exponent?_cons hletter, cutSign_append hsign hdigits.head_ne_sign]
      exact hdigits

/-- An exponent does not begin with a digit or a point. -/
theorem IsExponent.head_ne (h : IsExponent cs) : ∀ c ∈ cs.head?, c.isDigit = false ∧ c ≠ '.' := by
  cases h with
  | none => nofun
  | some hletter _ _ =>
    rintro _ ⟨⟩
    rcases hletter with rfl | rfl <;> decide

/-- A decimal is read from the digits in front of what is no digit, a fraction and an exponent. -/
theorem isSome_decimal?_append {whole rest : List Char} (hwhole : ∀ c ∈ whole, c.isDigit = true)
    (hrest : ∀ c ∈ rest.head?, c.isDigit = false) :
    (decimal? (whole ++ rest)).isSome = true ↔
      ¬ (whole = [] ∧ (fractionOf rest).1 = []) ∧ IsExponent (fractionOf rest).2 := by
  rw [decimal?, span_isDigit hwhole hrest, ← isSome_exponent?_iff]
  by_cases hempty : whole = [] ∧ (fractionOf rest).1 = [] <;> simp [hempty]

/-- The digits after a point are cut off from an exponent. -/
theorem fractionOf_point {fraction exponent : List Char}
    (hfraction : ∀ c ∈ fraction, c.isDigit = true)
    (h : IsExponent exponent) : fractionOf ('.' :: (fraction ++ exponent)) = (fraction, exponent) :=
  span_isDigit hfraction fun c hc => (h.head_ne c hc).1

/-- An exponent has no fraction in front. -/
theorem fractionOf_exponent (h : IsExponent cs) : fractionOf cs = ([], cs) := by
  rw [fractionOf.eq_def]
  split
  · exact absurd rfl (h.head_ne '.' rfl).2
  · rfl

/-- A fraction is a point with the digits that follow, or nothing. -/
theorem fractionOf_cases (cs : List Char) :
    (∃ fraction, (∀ c ∈ fraction, c.isDigit = true) ∧ (fractionOf cs).1 = fraction ∧
      cs = '.' :: (fraction ++ (fractionOf cs).2)) ∨ fractionOf cs = ([], cs) := by
  rw [fractionOf.eq_def]
  split
  · next after =>
    obtain ⟨fraction, rest, rfl, hfraction, hrest⟩ := exists_isDigit_append after
    rw [span_isDigit hfraction hrest]
    exact .inl ⟨fraction, hfraction, rfl, rfl⟩
  · exact .inr rfl

/-- A decimal is read exactly if it is one. -/
theorem isSome_decimal?_iff : (decimal? cs).isSome = true ↔ IsDecimal cs := by
  constructor
  · intro h
    obtain ⟨whole, rest, rfl, hwhole, hrest⟩ := exists_isDigit_append cs
    obtain ⟨hne, hexponent⟩ := (isSome_decimal?_append hwhole hrest).1 h
    rcases fractionOf_cases rest with ⟨fraction, hfraction, heq, hcut⟩ | hnone
    · rw [heq] at hne
      rw [hcut]
      exact .fraction ⟨by simpa using hne, List.forall_mem_append.2 ⟨hwhole, hfraction⟩⟩ hexponent
    · rw [hnone] at hne hexponent
      exact .whole ⟨fun hnil => hne ⟨hnil, rfl⟩, hwhole⟩ hexponent
  · intro h
    cases h with
    | whole hwhole hexponent =>
      rw [isSome_decimal?_append hwhole.2 fun c hc => (hexponent.head_ne c hc).1,
        fractionOf_exponent hexponent]
      exact ⟨fun hempty => hwhole.1 hempty.1, hexponent⟩
    | fraction hdigits hexponent =>
      obtain ⟨hne, hall⟩ := hdigits
      obtain ⟨hwhole, hfraction⟩ := List.forall_mem_append.1 hall
      rw [isSome_decimal?_append hwhole (by rintro _ ⟨⟩; decide),
        fractionOf_point hfraction hexponent]
      exact ⟨by simpa using hne, hexponent⟩

/-- A decimal begins with a digit or a point, not with a sign. -/
theorem IsDecimal.head_ne_sign (h : IsDecimal cs) : ∀ c ∈ cs.head?, c ≠ '-' ∧ c ≠ '+' := by
  cases h with
  | whole hwhole _ =>
    obtain ⟨d, digits, rfl⟩ := List.exists_cons_of_ne_nil hwhole.1
    exact hwhole.head_ne_sign
  | @fraction whole _ _ hdigits _ =>
    cases whole with
    | nil =>
      rintro _ ⟨⟩
      decide
    | cons d digits => exact hdigits.head_ne_sign

/-- A word begins with a letter, not with a sign. -/
theorem head_ne_sign_of_word (h : String.ofList (cs.map Char.toLower) ∈ words) :
    ∀ c ∈ cs.head?, c ≠ '-' ∧ c ≠ '+' := by
  cases cs with
  | nil => nofun
  | cons c rest =>
    have hlist : (c :: rest).map Char.toLower ∈ words.map String.toList :=
      List.mem_map.2 ⟨_, h, String.toList_ofList⟩
    rintro _ ⟨⟩
    constructor <;>
    · rintro rfl
      simp [words] at hlist

end

/-- A text is read as a double exactly if it is one. -/
theorem isSome_float?_iff {s : String} : (float? s).isSome = true ↔ IsFloat s.toList := by
  have hparts (negative : Bool) (cs : List Char) (hcut : cutSign s.toList = (negative, cs)) :
      (float? s).isSome = true ↔
        String.ofList (cs.map Char.toLower) ∈ words ∨ IsDecimal cs := by
    rw [float?, hcut, ← isSome_decimal?_iff]
    dsimp only
    split
    · next h => simp [h, words]
    · next h => simp [h, words]
    · next h => simp [h, words]
    · next hinf hinfinity hnan =>
      have hnone : String.ofList (cs.map Char.toLower) ∉ words := by
        simp only [words, List.mem_cons, List.not_mem_nil, or_false, not_or]
        exact ⟨hinf, hinfinity, hnan⟩
      simp [hnone]
  constructor
  · intro h
    obtain ⟨sign, hsign, heq⟩ := exists_isSign_cutSign s.toList
    rw [heq]
    exact ((hparts _ _ rfl).1 h).elim (.word hsign) (.decimal hsign)
  · intro h
    generalize hs : s.toList = cs at h
    cases h with
    | word hsign hword =>
      exact (hparts _ _ (hs ▸ cutSign_append hsign (head_ne_sign_of_word hword))).2 (.inl hword)
    | decimal hsign hdecimal =>
      exact (hparts _ _ (hs ▸ cutSign_append hsign hdecimal.head_ne_sign)).2 (.inr hdecimal)

end Wiring.Decimal
