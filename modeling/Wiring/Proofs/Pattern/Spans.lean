import Mathlib.Data.List.Basic
import Wiring.Pattern.Shape

/-!
# What a pattern matches

`Pattern.Spans t p i j` says that the pattern matches the text from position `i` to position `j`, by
the constructors of the pattern. Running a pattern gives exactly the ends of its matches
(`mem_ends`): a repetition is run no more rounds than there are positions, because a match that
takes more of them stands still in some round, and that round can be left out or made twice
(`times_round`).
-/

namespace Wiring.Pattern

/-- `n` steps of a relation. -/
def Times (R : Nat → Nat → Prop) : (n : Nat) → Nat → Nat → Prop
  | 0, i, j => i = j
  | n + 1, i, j => ∃ k, R i k ∧ Times R n k j

/-- The pattern matches the text from one position to another. A repetition with a bound below its
least number is made that least number of times. -/
def Spans (t : Array Char) : Pattern → Nat → Nat → Prop
  | empty, i, j => i = j
  | text chars, i, j => j = i + chars.length ∧ ∀ k, k < chars.length → t[i + k]? = chars[k]?
  | set s, i, j => j = i + 1 ∧ ∃ c, t[i]? = some c ∧ s.mem c = true
  | place p, i, j => i = j ∧ p.holds t i = true
  | group _ a, i, j => a.Spans t i j
  | seq a b, i, j => ∃ k, a.Spans t i k ∧ b.Spans t k j
  | alt a b, i, j => a.Spans t i j ∨ b.Spans t i j
  | rep a least most?, i, j =>
    ∃ n, least ≤ n ∧ (∀ most, most? = some most → n ≤ max least most) ∧ Times (a.Spans t) n i j

/-! ## Steps of a relation that only goes ahead -/

section
variable {R : Nat → Nat → Prop} {m n i j k : Nat}

/-- Some steps and then more steps are all of them together. -/
theorem times_add : Times R (m + n) i j ↔ ∃ k, Times R m i k ∧ Times R n k j := by
  induction m generalizing i with
  | zero => simp [Times]
  | succ m ih =>
    rw [Nat.succ_add]
    simp only [Times, ih]
    constructor
    · rintro ⟨k, hk, l, hl, h⟩
      exact ⟨l, ⟨k, hk, hl⟩, h⟩
    · rintro ⟨l, ⟨k, hk, hl⟩, h⟩
      exact ⟨k, hk, l, hl, h⟩

/-- Steps that do not go back do not go back together. -/
theorem le_of_times (hR : ∀ i j, R i j → i ≤ j) (h : Times R n i j) : i ≤ j := by
  induction n generalizing i with
  | zero => exact Nat.le_of_eq h
  | succ n ih =>
    obtain ⟨k, hk, h⟩ := h
    exact Nat.le_trans (hR i k hk) (ih h)

/-- More steps than there are positions to pass stand still somewhere. -/
theorem exists_still (hR : ∀ i j, R i j → i ≤ j) (h : Times R n i j) (hn : j < i + n) :
    ∃ k a b, n = a + 1 + b ∧ Times R a i k ∧ R k k ∧ Times R b k j := by
  induction n generalizing i with
  | zero =>
    have hle := le_of_times hR h
    omega
  | succ n ih =>
    obtain ⟨k, hk, h⟩ := h
    rcases Nat.eq_or_lt_of_le (hR i k hk) with rfl | hlt
    · exact ⟨i, 0, n, by omega, rfl, hk, h⟩
    · obtain ⟨l, a, b, hab, ha, hl, hb⟩ := ih h (by omega)
      exact ⟨l, a + 1, b, by omega, ⟨k, hk, ha⟩, hl, hb⟩

/-- A step that stands still can be left out. -/
theorem times_of_succ (hR : ∀ i j, R i j → i ≤ j) (h : Times R (n + 1) i j) (hn : j < i + (n + 1)) :
    Times R n i j := by
  obtain ⟨k, a, b, hab, ha, -, hb⟩ := exists_still hR h hn
  obtain rfl : n = a + b := by omega
  exact times_add.2 ⟨k, ha, hb⟩

/-- A step that stands still can be made twice. -/
theorem times_succ (hR : ∀ i j, R i j → i ≤ j) (h : Times R n i j) (hn : j < i + n) :
    Times R (n + 1) i j := by
  obtain ⟨k, a, b, rfl, ha, hk, hb⟩ := exists_still hR h hn
  have hstill : Times R (1 + b) k j := times_add.2 ⟨k, ⟨k, hk, rfl⟩, hb⟩
  have htwice : Times R (1 + (1 + b)) k j := times_add.2 ⟨k, ⟨k, hk, rfl⟩, hstill⟩
  have hall := times_add.2 ⟨k, ha, htwice⟩
  rwa [show a + (1 + (1 + b)) = a + 1 + b + 1 by omega] at hall

/-- From a number of steps on that is above the number of positions, the number does not matter. -/
theorem times_round (hR : ∀ i j, R i j → i ≤ j) (hj : j ≤ m) : Times R (min n (m + 1)) i j ↔
    Times R n i j := by
  rcases Nat.le_total n (m + 1) with hle | hle
  · rw [Nat.min_eq_left hle]
  rw [Nat.min_eq_right hle]
  induction hle with
  | refl => rfl
  | @step n hle ih =>
    replace hle : m + 1 ≤ n := hle
    rw [ih]
    exact ⟨fun h => times_succ hR h (by omega), fun h => times_of_succ hR h (by omega)⟩

/-- What is reached in any number of steps, up to a bound if there is one, is reached in no more
steps than there are positions. -/
theorem exists_times_upTo (hR : ∀ i j, R i j → i ≤ j) (hj : j ≤ m) (most? : Option Nat) :
    (∃ l ≤ (most?.map (min · (m + 1))).getD (m + 1), Times R l i j) ↔
      ∃ l, (∀ most, most? = some most → l ≤ most) ∧ Times R l i j := by
  cases most? with
  | none =>
    simp only [Option.map_none, Option.getD_none, reduceCtorEq, false_implies,
      implies_true, true_and]
    exact ⟨fun ⟨l, _, h⟩ => ⟨l, h⟩,
      fun ⟨l, h⟩ => ⟨min l (m + 1), Nat.min_le_right .., (times_round hR hj).2 h⟩⟩
  | some most =>
    simp only [Option.map_some, Option.getD_some, Option.some.injEq, forall_eq']
    exact ⟨fun ⟨l, hl, h⟩ => ⟨l, Nat.le_trans hl (Nat.min_le_left ..), h⟩,
      fun ⟨l, hl, h⟩ => ⟨min l (m + 1), by omega, (times_round hR hj).2 h⟩⟩

end

/-! ## Sets of positions -/

/-- A function on sets of positions up to `m` makes one step of a relation. -/
structure Runs (m : Nat) (R : Nat → Nat → Prop) (f : List Nat → List Nat) : Prop where
  mem : ∀ s, (∀ i ∈ s, i ≤ m) → ∀ j, j ∈ f s ↔ ∃ i ∈ s, R i j
  ahead : ∀ i j, R i j → i ≤ j
  within : ∀ i j, R i j → i ≤ m → j ≤ m

section
variable {m k j : Nat} {R : Nat → Nat → Prop} {f : List Nat → List Nat} {s a b : List Nat}

/-- A position is in two sets together if it is in one of them. -/
theorem mem_merge : j ∈ merge a b ↔ j ∈ a ∨ j ∈ b := by
  by_cases h : j ∈ a <;> simp [merge, h]

/-- A set that merging adds nothing to holds the other one. -/
theorem subset_of_length_merge (h : (merge a b).length = a.length) : b ⊆ a := by
  intro i hi
  have hnil : b.filter (fun i => !a.contains i) = [] := by
    rw [merge, List.length_append] at h
    exact List.eq_nil_of_length_eq_zero (by omega)
  simpa using List.filter_eq_nil_iff.1 hnil i hi

namespace Runs
variable (h : Runs m R f)
include h

/-- One step stays below the bound. -/
theorem le_of_mem (hs : ∀ i ∈ s, i ≤ m) : ∀ i ∈ f s, i ≤ m := by
  intro j hj
  obtain ⟨i, hi, hR⟩ := (h.mem s hs j).1 hj
  exact h.within i j hR (hs i hi)

/-- What is reached in a number of rounds is what is reached in this number of steps. -/
theorem mem_iterate (hs : ∀ i ∈ s, i ≤ m) : j ∈ iterate f k s ↔ ∃ i ∈ s, Times R k i j := by
  induction k generalizing s with
  | zero => simp [iterate, Times]
  | succ k ih =>
    rw [iterate]
    split
    · next hempty => simp [List.isEmpty_iff.1 hempty]
    · rw [ih (h.le_of_mem hs)]
      simp only [Times, h.mem s hs]
      constructor
      · rintro ⟨l, ⟨i, hi, hR⟩, ht⟩
        exact ⟨i, hi, l, hR, ht⟩
      · rintro ⟨i, hi, l, hR, ht⟩
        exact ⟨l, ⟨i, hi, hR⟩, ht⟩

/-- What is collected in a number of rounds is what is reached in at most this number of steps. -/
theorem mem_closure (hs : ∀ i ∈ s, i ≤ m) :
    j ∈ closure f k s ↔ ∃ i ∈ s, ∃ l ≤ k, Times R l i j := by
  induction k generalizing s with
  | zero => simp [closure, Times]
  | succ k ih =>
    have hnext : ∀ i ∈ merge s (f s), i ≤ m := by
      intro i hi
      rcases mem_merge.1 hi with hi | hi
      · exact hs i hi
      · exact h.le_of_mem hs i hi
    rw [closure]
    split
    · next hlength =>
      -- a round that adds nothing leaves a set that no more steps lead out of
      have hclosed : ∀ l i, i ∈ s → Times R l i j → j ∈ s := by
        intro l
        induction l with
        | zero => exact fun i hi ht => ht ▸ hi
        | succ l ihl =>
          rintro i hi ⟨i', hR, ht⟩
          exact ihl i' (subset_of_length_merge hlength ((h.mem s hs i').2 ⟨i, hi, hR⟩)) ht
      exact ⟨fun hj => ⟨j, hj, 0, Nat.zero_le _, rfl⟩, fun ⟨i, hi, l, _, ht⟩ => hclosed l i hi ht⟩
    · rw [ih hnext]
      constructor
      · rintro ⟨i, hi, l, hl, ht⟩
        rcases mem_merge.1 hi with hi | hi
        · exact ⟨i, hi, l, by omega, ht⟩
        · obtain ⟨i', hi', hR⟩ := (h.mem s hs i).1 hi
          exact ⟨i', hi', l + 1, by omega, i, hR, ht⟩
      · rintro ⟨i, hi, l, hl, ht⟩
        cases l with
        | zero => exact ⟨i, mem_merge.2 (.inl hi), 0, Nat.zero_le _, ht⟩
        | succ l =>
          obtain ⟨i', hR, ht⟩ := ht
          have hi' : i' ∈ f s := (h.mem s hs i').2 ⟨i, hi, hR⟩
          exact ⟨i', mem_merge.2 (.inr hi'), l, by omega, ht⟩

/-- Steps from positions below the bound stay below it. -/
theorem le_of_times (hs : ∀ i ∈ s, i ≤ m) {n : Nat} {i : Nat} (hi : i ∈ s) (ht : Times R n i j) :
    j ≤ m := by
  have hj : j ∈ iterate f n s := (h.mem_iterate hs).2 ⟨i, hi, ht⟩
  clear ht hi
  induction n generalizing s with
  | zero => exact hs j hj
  | succ n ih =>
    rw [iterate] at hj
    split at hj
    · cases hj
    · exact ih (h.le_of_mem hs) hj

/-- Rounds that have to be made, and then as many more as are allowed. -/
theorem mem_rounds (hs : ∀ i ∈ s, i ≤ m) (least : Nat) (more? : Option Nat) :
    j ∈ closure f ((more?.map (min · (m + 1))).getD (m + 1)) (iterate f (min least (m + 1)) s) ↔
      ∃ i ∈ s, ∃ l, (∀ more, more? = some more → l ≤ more) ∧ Times R (least + l) i j := by
  have hiterate : ∀ i ∈ iterate f (min least (m + 1)) s, i ≤ m := by
    intro k hk
    obtain ⟨i, hi, hik⟩ := (h.mem_iterate hs).1 hk
    exact h.le_of_times hs hi hik
  rw [h.mem_closure hiterate]
  simp only [h.mem_iterate hs, times_add]
  constructor
  · rintro ⟨k, ⟨i, hi, hik⟩, hmore⟩
    have hk : k ≤ m := h.le_of_times hs hi hik
    have hj : j ≤ m := by
      obtain ⟨l, -, hkj⟩ := hmore
      exact h.le_of_times hs hi (times_add.2 ⟨k, hik, hkj⟩)
    obtain ⟨l, hl, hkj⟩ := (exists_times_upTo h.ahead hj more?).1 hmore
    exact ⟨i, hi, l, hl, k, (times_round h.ahead hk).1 hik, hkj⟩
  · rintro ⟨i, hi, l, hl, k, hik, hkj⟩
    have hj : j ≤ m := h.le_of_times hs hi (times_add.2 ⟨k, hik, hkj⟩)
    have hk : k ≤ m := h.le_of_times hs hi hik
    exact ⟨k, ⟨i, hi, (times_round h.ahead hk).2 hik⟩,
      (exists_times_upTo h.ahead hj more?).2 ⟨l, hl, hkj⟩⟩

end Runs

end

/-! ## Ends of matches -/

section
variable {t : Array Char} {p : Pattern} {i j : Nat}

/-- A match goes ahead, and ends in the text if it starts there. -/
theorem le_of_spans (h : p.Spans t i j) : i ≤ j ∧ (i ≤ t.size → j ≤ t.size) := by
  induction p generalizing i j with
  | empty => exact h ▸ ⟨Nat.le_refl _, id⟩
  | text chars =>
    obtain ⟨rfl, hchars⟩ := h
    refine ⟨Nat.le_add_right .., fun hi => ?_⟩
    cases hlen : chars.length with
    | zero => exact hi
    | succ n =>
      have hlast := hchars n (by omega)
      rw [List.getElem?_eq_getElem (by omega)] at hlast
      have := (Array.getElem?_eq_some_iff.1 hlast).1
      omega
  | set s =>
    obtain ⟨rfl, c, hc, -⟩ := h
    have := (Array.getElem?_eq_some_iff.1 hc).1
    omega
  | place p => exact h.1 ▸ ⟨Nat.le_refl _, id⟩
  | group n a ih => exact ih h
  | seq a b iha ihb =>
    obtain ⟨k, ha, hb⟩ := h
    have := iha ha
    have := ihb hb
    omega
  | alt a b iha ihb =>
    rcases h with h | h
    · exact iha h
    · exact ihb h
  | rep a least most? ih =>
    obtain ⟨n, -, -, h⟩ := h
    refine ⟨le_of_times (fun i j h => (ih h).1) h, ?_⟩
    clear * - h ih
    induction n generalizing i with
    | zero => exact h ▸ id
    | succ n ihn =>
      obtain ⟨k, hk, h⟩ := h
      exact fun hi => ihn h ((ih hk).2 hi)

/-- A step leads behind a character that is one of those wanted. -/
theorem mem_step {q : Char → Bool} {s : List Nat} :
    j ∈ step t q s ↔ ∃ i ∈ s, j = i + 1 ∧ ∃ c, t[i]? = some c ∧ q c = true := by
  simp only [step, charAt, List.mem_map, List.mem_filter, Option.any_eq_true]
  constructor
  · rintro ⟨i, ⟨hi, hc⟩, rfl⟩
    exact ⟨i, hi, rfl, hc⟩
  · rintro ⟨i, hi, rfl, hc⟩
    exact ⟨i, ⟨hi, hc⟩, rfl⟩

/-- Steps through characters lead where their text matches. -/
theorem mem_foldl_step {chars : List Char} {s : List Nat} :
    j ∈ chars.foldl (fun s c => step t (· == c) s) s ↔ ∃ i ∈ s, (text chars).Spans t i j := by
  induction chars generalizing s with
  | nil => simp [Spans]
  | cons c rest ih =>
    rw [List.foldl_cons, ih]
    simp only [mem_step, beq_iff_eq, Spans, List.length_cons]
    constructor
    · rintro ⟨_, ⟨i, hi, rfl, c', hc', rfl⟩, rfl, hrest⟩
      refine ⟨i, hi, by omega, fun k hk => ?_⟩
      cases k with
      | zero => exact hc'
      | succ k => rw [List.getElem?_cons_succ, ← hrest k (by omega), Nat.add_right_comm,
        Nat.add_assoc]
    · rintro ⟨i, hi, rfl, hchars⟩
      refine ⟨i + 1, ⟨i, hi, rfl, c, hchars 0 (by omega), rfl⟩, by omega, fun k hk => ?_⟩
      rw [← List.getElem?_cons_succ, ← hchars (k + 1) (by omega), Nat.add_right_comm, Nat.add_assoc]

/-- A pattern makes matches if it comes to their ends, for matches go ahead anyway. -/
theorem runs_of_mem_ends
    (h : ∀ s, (∀ i ∈ s, i ≤ t.size) → ∀ j, j ∈ p.ends t s ↔ ∃ i ∈ s, p.Spans t i j) :
    Runs t.size (p.Spans t) (p.ends t) :=
  ⟨h, fun _ _ h => (le_of_spans h).1, fun _ _ h => (le_of_spans h).2⟩

/-- A repetition comes to the ends of as many matches as it allows, one after the other. -/
theorem mem_ends_rep {a : Pattern} (ha : Runs t.size (a.Spans t) (a.ends t)) {least : Nat}
    {most? : Option Nat} {s : List Nat} (hs : ∀ i ∈ s, i ≤ t.size) :
    j ∈ (rep a least most?).ends t s ↔ ∃ i ∈ s, (rep a least most?).Spans t i j := by
  have hends : (rep a least most?).ends t s =
      closure (a.ends t) (((most?.map (· - least)).map (min · (t.size + 1))).getD (t.size + 1))
        (iterate (a.ends t) (min least (t.size + 1)) s) := by
    cases most? <;> rfl
  rw [hends, ha.mem_rounds hs]
  simp only [Spans]
  constructor
  · rintro ⟨i, hi, l, hl, h⟩
    refine ⟨i, hi, least + l, Nat.le_add_right .., fun most hmost => ?_, h⟩
    have := hl (most - least) (by rw [hmost, Option.map_some])
    omega
  · rintro ⟨i, hi, n, hleast, hmost, h⟩
    obtain ⟨l, rfl⟩ := Nat.exists_eq_add_of_le hleast
    refine ⟨i, hi, l, fun more hmore => ?_, h⟩
    obtain ⟨most, hsome, rfl⟩ := Option.map_eq_some_iff.1 hmore
    have := hmost most hsome
    omega

/-- Running a pattern makes one match from each of some positions. -/
theorem runs_ends (t : Array Char) (p : Pattern) : Runs t.size (p.Spans t) (p.ends t) := by
  refine runs_of_mem_ends ?_
  induction p with
  | empty => simp [ends, Spans]
  | text chars => exact fun s _ j => mem_foldl_step
  | set c => exact fun s _ j => mem_step
  | place p =>
    intro s _ j
    simp only [ends, Spans, List.mem_filter]
    exact ⟨fun h => ⟨j, h.1, rfl, h.2⟩, fun ⟨i, hi, heq, h⟩ => heq ▸ ⟨hi, h⟩⟩
  | group n a ih => exact ih
  | seq a b iha ihb =>
    intro s hs j
    simp only [ends, Spans, ihb _ ((runs_of_mem_ends iha).le_of_mem hs), iha s hs]
    constructor
    · rintro ⟨k, ⟨i, hi, hik⟩, hkj⟩
      exact ⟨i, hi, k, hik, hkj⟩
    · rintro ⟨i, hi, k, hik, hkj⟩
      exact ⟨k, ⟨i, hi, hik⟩, hkj⟩
  | alt a b iha ihb =>
    intro s hs j
    simp only [ends, Spans, mem_merge, iha s hs, ihb s hs]
    constructor
    · rintro (⟨i, hi, h⟩ | ⟨i, hi, h⟩)
      · exact ⟨i, hi, .inl h⟩
      · exact ⟨i, hi, .inr h⟩
    · rintro ⟨i, hi, h | h⟩
      · exact .inl ⟨i, hi, h⟩
      · exact .inr ⟨i, hi, h⟩
  | rep a least most? ih => exact fun s hs j => mem_ends_rep (runs_of_mem_ends ih) hs

/-- A pattern matches some part of a text if it matches from one of its positions to another. -/
theorem isMatch_iff (p : Pattern) (s : String) : p.isMatch s = true ↔
    ∃ i j, i ≤ s.toList.toArray.size ∧ p.Spans s.toList.toArray i j := by
  rw [isMatch]
  generalize s.toList.toArray = t
  have hpositions : ∀ i, i ∈ List.range (t.size + 1) ↔ i ≤ t.size :=
    fun i => List.mem_range.trans Nat.lt_succ_iff
  simp only [Bool.not_eq_true', List.isEmpty_eq_false_iff_exists_mem,
    (runs_ends t p).mem _ (fun i => (hpositions i).1), hpositions]
  exact ⟨fun ⟨j, i, h⟩ => ⟨i, j, h⟩, fun ⟨i, j, h⟩ => ⟨j, i, h⟩⟩

/-! ## Sequences -/

/-- The patterns match one after the other, from one position to another. -/
def SpansAll (t : Array Char) : List Pattern → Nat → Nat → Prop
  | [], i, j => i = j
  | p :: ps, i, j => ∃ k, p.Spans t i k ∧ SpansAll t ps k j

/-- Two lists of patterns match one after the other. -/
theorem spansAll_append {ps qs : List Pattern} :
    SpansAll t (ps ++ qs) i j ↔ ∃ k, SpansAll t ps i k ∧ SpansAll t qs k j := by
  induction ps generalizing i with
  | nil => simp [SpansAll]
  | cons p ps ih =>
    simp only [List.cons_append, SpansAll, ih]
    constructor
    · rintro ⟨k, hk, l, hl, h⟩
      exact ⟨l, ⟨k, hk, hl⟩, h⟩
    · rintro ⟨l, ⟨k, hk, hl⟩, h⟩
      exact ⟨k, hk, l, hl, h⟩

/-- The parts of a pattern match where it does. -/
theorem spansAll_parts : SpansAll t p.parts i j ↔ p.Spans t i j := by
  induction p generalizing i with
  | seq a b _ ihb => simp only [parts, SpansAll, Spans, ihb]
  | _ => simp [parts, SpansAll, Spans]

/-- The parts of some patterns match where these do. -/
theorem spansAll_flatMap_parts {ps : List Pattern} :
    SpansAll t (ps.flatMap parts) i j ↔ SpansAll t ps i j := by
  induction ps generalizing i with
  | nil => rfl
  | cons p ps ih => simp only [List.flatMap_cons, spansAll_append, spansAll_parts, SpansAll, ih]

/-- Two texts match one after the other. -/
theorem spans_text_append {a b : List Char} :
    (text (a ++ b)).Spans t i j ↔ ∃ k, (text a).Spans t i k ∧ (text b).Spans t k j := by
  simp only [Spans, List.length_append]
  constructor
  · rintro ⟨rfl, h⟩
    refine ⟨i + a.length, ⟨rfl, fun k hk => ?_⟩, by omega, fun k hk => ?_⟩
    · rw [h k (by omega), List.getElem?_append_left hk]
    · rw [Nat.add_assoc, h (a.length + k) (by omega), List.getElem?_append_right (by omega),
        Nat.add_sub_cancel_left]
  · rintro ⟨_, ⟨rfl, ha⟩, rfl, hb⟩
    refine ⟨by omega, fun k hk => ?_⟩
    rcases Nat.lt_or_ge k a.length with hlt | hge
    · rw [ha k hlt, List.getElem?_append_left hlt]
    · rw [List.getElem?_append_right hge, ← hb (k - a.length) (by omega), Nat.add_assoc,
        Nat.add_sub_cancel' hge]

/-- A pattern put in front may be merged with the first one. -/
theorem spansAll_consPart {ps : List Pattern} :
    SpansAll t (consPart p ps) i j ↔ SpansAll t (p :: ps) i j := by
  rw [consPart.eq_def]
  split
  · simp only [SpansAll, spans_text_append]
    constructor
    · rintro ⟨l, ⟨k, hk, hl⟩, h⟩
      exact ⟨k, hk, l, hl, h⟩
    · rintro ⟨k, hk, l, hl, h⟩
      exact ⟨l, ⟨k, hk, hl⟩, h⟩
  · rfl

/-- Parts put together match where they do one after the other. -/
theorem spans_ofParts {ps : List Pattern} : (ofParts ps).Spans t i j ↔ SpansAll t ps i j := by
  induction ps generalizing i with
  | nil => rfl
  | cons p ps ih =>
    cases ps with
    | nil => simp [ofParts, SpansAll]
    | cons q qs => simp only [ofParts, Spans, SpansAll, ih]

/-- Patterns that are merged match where they do one after the other. -/
theorem spansAll_foldr_consPart {ps : List Pattern} :
    SpansAll t (ps.foldr consPart []) i j ↔ SpansAll t ps i j := by
  induction ps generalizing i with
  | nil => rfl
  | cons p ps ih => simp only [List.foldr_cons, spansAll_consPart, SpansAll, ih]

/-- The sequence of some patterns matches as they do one after the other. -/
theorem spans_sequence {ps : List Pattern} : (sequence ps).Spans t i j ↔ SpansAll t ps i j := by
  rw [sequence, spans_ofParts, spansAll_foldr_consPart, spansAll_flatMap_parts]

end

end Wiring.Pattern
