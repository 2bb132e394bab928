import Mathlib.Algebra.Ring.Int.Defs
import Mathlib.Algebra.Ring.Nat
import Mathlib.Data.List.TakeDrop
import Wiring.Datum.Json.Reader
import Wiring.Datum.Json.Writer
import Wiring.Proofs.Datum.Depth

/-!
# What is written as JSON is read back

`Json.parse?` reads what `Json.pretty` and `Json.compact` write back as far as the reader goes down
(`parse?_pretty`, `parse?_compact`), where the doubles of the tree have to be read back from their
texts. The two layouts differ in blanks only, so both are cases of one, `Json.spell`, and the tree
is read back by going through it (`value_spell`): texts by their characters (`text_quoted`), whole
numbers by their digits (`number_digits`), lists and records by their items.
-/

namespace Wiring

namespace Json

/-! ## Texts -/

/-- A control character is read back from its two last hexadecimal digits. -/
theorem hex4_control : ∀ n < 0x20, Text.Ranges.hexNumber?
    ['0', '0', Nat.digitChar (n / 16), Nat.digitChar (n % 16)] = some n := by
  decide

/-- The escape of a control character is read as this character. -/
theorem escape_control {c : Char} (hc : c.toNat < 0x20) (rest : List Char) :
    escape ('u' :: '0' :: '0' ::
        Nat.digitChar (c.toNat / 16) :: Nat.digitChar (c.toNat % 16) :: rest) =
      some (some c, rest) := by
  have hhigh : ¬ (0xD800 ≤ c.toNat ∧ c.toNat ≤ 0xDBFF) := by omega
  have hlow : ¬ (0xDC00 ≤ c.toNat ∧ c.toNat ≤ 0xDFFF) := by omega
  simp [escape, unicodeEscape, hex4, hex4_control c.toNat hc, hhigh, hlow]

/-- Each character of a text is read back from what is written for it. -/
theorem textBody_escaped (n : Nat) (acc : List Char) (c : Char) (rest : List Char) :
    textBody (n + 1) (some acc) (escaped c ++ rest) = textBody n (some (c :: acc)) rest := by
  rw [escaped.eq_def]
  split
  · simp [textBody, escape]
  · simp [textBody, escape]
  · simp [textBody, escape]
  · simp [textBody, escape]
  · simp [textBody, escape]
  · simp [textBody, escape]
  · simp [textBody, escape]
  · next hquote hslash _ _ _ _ _ =>
    split
    · next hc =>
      rw [Nat.toDigits_of_lt_base (by omega), Nat.toDigits_of_lt_base (by omega)]
      simp [textBody, escape_control hc]
    · next hc => simp [textBody, hc]

/-- A text is read back from between its quotes. -/
theorem textBody_flatMap {cs acc : List Char} {n : Nat} (hn : cs.length < n) (rest : List Char) :
    textBody n (some acc) (cs.flatMap escaped ++ '"' :: rest) =
      some (some (String.ofList (acc.reverse ++ cs)), rest) := by
  induction cs generalizing n acc with
  | nil =>
    obtain ⟨n, rfl⟩ : ∃ k, n = k + 1 := ⟨n - 1, by simp at hn; omega⟩
    simp [textBody]
  | cons c cs ih =>
    obtain ⟨n, rfl⟩ : ∃ k, n = k + 1 := ⟨n - 1, by simp at hn; omega⟩
    rw [List.flatMap_cons, List.append_assoc, textBody_escaped, ih (by simpa using hn)]
    simp

/-- A character is written with one character at least. -/
theorem one_le_length_escaped (c : Char) : 1 ≤ (escaped c).length := by
  rw [escaped.eq_def]
  repeat' split
  all_goals simp

/-- A quoted text is read back after its opening quote. -/
theorem text_quoted (s : String) (rest : List Char) :
    text (s.toList.flatMap escaped ++ '"' :: rest) = some (some s, rest) := by
  have hlength : s.toList.length ≤ (s.toList.flatMap escaped).length := by
    induction s.toList with
    | nil => simp
    | cons c cs ih =>
      have hc := one_le_length_escaped c
      simp only [List.flatMap_cons, List.length_cons, List.length_append]
      omega
  rw [text, textBody_flatMap (by simp only [List.length_append, List.length_cons]; omega)]
  simp

@[simp] theorem toList_quoted (s : String) :
    (quoted s).toList = '"' :: (s.toList.flatMap escaped ++ ['"']) := by
  simp [quoted]

/-! ## Whole numbers -/

/-- What can follow a value: the end of the text, a blank, or what closes or goes on with the list
or record around it. -/
def Ends (rest : List Char) : Prop :=
  ∀ c, rest.head? = some c → c ∈ [',', ']', '}', ' ', '\n', '\t', '\r']

/-- The digits in front of what ends a value are taken as a whole. -/
theorem digits_append {ds rest : List Char} (hds : ∀ c ∈ ds, c.isDigit = true) (hrest : Ends rest) :
    digits (ds ++ rest) = (ds, rest) := by
  rw [digits, List.span_eq_takeWhile_dropWhile]
  have hstop : rest.takeWhile Char.isDigit = [] ∧ rest.dropWhile Char.isDigit = rest := by
    cases rest with
    | nil => simp
    | cons c cs =>
      have hc : c.isDigit = false := by
        have hmem := hrest c rfl
        revert hmem
        simp only [List.mem_cons, List.not_mem_nil, or_false]
        rintro (rfl | rfl | rfl | rfl | rfl | rfl | rfl) <;> rfl
      simp [hc]
  rw [List.takeWhile_append_of_pos hds, List.dropWhile_append_of_pos hds, hstop.1, hstop.2,
    List.append_nil]

/-- Digits that stay below the bound are all taken. -/
theorem accumulate_eq {ds : List Char} {n : Nat} (h : Nat.ofDigitChars 10 ds n < 2 ^ 64) :
    accumulate n ds = (Nat.ofDigitChars 10 ds n, 0) := by
  induction ds generalizing n with
  | nil => rfl
  | cons c cs ih =>
    rw [Nat.ofDigitChars_cons] at h ⊢
    have hnext : 10 * n + (c.toNat - 48) < 2 ^ 64 := by
      rw [Nat.ofDigitChars_eq_ofDigitChars_zero] at h
      have hle : 10 * n + (c.toNat - 48) ≤ 10 ^ cs.length * (10 * n + (c.toNat - 48)) :=
        Nat.le_mul_of_pos_left _ (Nat.one_le_pow _ _ (by decide))
      exact Nat.lt_of_le_of_lt (Nat.le_add_right_of_le hle) h
    rw [accumulate, Nat.mul_comm n 10]
    exact (if_pos hnext).trans (ih h)

/-- The digits of a number start with a zero only if it is zero. -/
theorem head?_toDigits {n : Nat} (h : (Nat.toDigits 10 n).head? = some '0') : n = 0 := by
  have hdigit : ∀ d < 10, Nat.digitChar d = '0' → d = 0 := by decide
  induction n using Nat.strongRecOn with
  | ind n ih =>
    by_cases hn : n < 10
    · rw [Nat.toDigits_of_lt_base hn] at h
      exact hdigit n hn (Option.some.inj h)
    · rw [Nat.toDigits_of_base_le (by decide) (by omega), List.head?_append] at h
      cases hd : Nat.toDigits 10 (n / 10) with
      | nil => exact absurd hd Nat.toDigits_ne_nil
      | cons c cs =>
        rw [hd] at h
        have hzero := ih (n / 10) (by omega) (by rw [hd]; exact h)
        omega

/-- What the digits of a number stand for after a sign. -/
def signed (negative : Bool) (n : Nat) : Datum :=
  if !negative then .int n
  else if n = 0 ∨ Decimal.twoTo 63 < n then .float (-(Decimal.nearest n 0))
  else .int (-(n : Int))

/-- A number is read back from its digits. -/
theorem number_digits (negative : Bool) {n : Nat} (hn : n < 2 ^ 64) {rest : List Char}
    (hrest : Ends rest) :
    number negative (Nat.toDigits 10 n ++ rest) = some (signed negative n, rest) := by
  have hdigits : digits (Nat.toDigits 10 n ++ rest) = (Nat.toDigits 10 n, rest) :=
    digits_append (fun c hc => Nat.isDigit_of_mem_toDigits (by decide) (by decide) hc) hrest
  have hvalue : accumulate 0 (Nat.toDigits 10 n) = (n, 0) := by
    have h := Nat.ofDigitChars_ten_toDigits (n := n)
    rw [accumulate_eq (by rwa [h]), h]
  rw [number, hdigits]
  simp only
  split
  · next h => exact absurd h Nat.toDigits_ne_nil
  · next c cs h =>
    have hzero : n = 0 := head?_toDigits (by rw [h]; rfl)
    subst hzero
    cases h
  · rw [hvalue]
    simp only
    split
    · exact absurd (hrest _ rfl) (by decide)
    · exact absurd (hrest _ rfl) (by decide)
    · exact absurd (hrest _ rfl) (by decide)
    · simp only [ne_eq, not_true_eq_false, if_false, signed]
      split
      · rfl
      · split <;> rfl

/-! ## Layouts -/

/-- Characters that stand between the parts of a text without meaning anything. -/
def AreBlank (cs : List Char) : Prop :=
  ∀ c ∈ cs, c ∈ [' ', '\n', '\t', '\r']

/-- Blanks in front are skipped. -/
theorem skip_append {cs : List Char} (h : AreBlank cs) (rest : List Char) :
    skip (cs ++ rest) = skip rest := by
  refine List.dropWhile_append_of_pos fun c hc => ?_
  simpa [or_assoc] using h c hc

/-- What is not blank is not skipped. -/
theorem skip_cons {c : Char} (h : c ∉ [' ', '\n', '\t', '\r']) (cs : List Char) :
    skip (c :: cs) = c :: cs := by
  refine List.dropWhile_cons_of_neg ?_
  simpa [or_assoc] using h

/-- The blanks of a layout: in front of each item of a level, and after the colon of a field. -/
structure Layout where
  gap : Nat → List Char
  colon : List Char
  gap_blank : ∀ level, AreBlank (gap level)
  colon_blank : AreBlank colon

namespace Layout

/-- One item a line. -/
def lines : Layout where
  gap level := '\n' :: List.replicate (2 * level) ' '
  colon := [' ']
  gap_blank level c hc := by
    rcases List.mem_cons.1 hc with rfl | hc
    · decide
    · rw [(List.mem_replicate.1 hc).2]
      decide
  colon_blank c hc := by
    rw [List.mem_singleton.1 hc]
    decide

/-- No blanks. -/
def dense : Layout where
  gap _ := []
  colon := []
  gap_blank _ := nofun
  colon_blank := nofun

end Layout

mutual

/-- The text of a node at a level of a layout. -/
def spell (l : Layout) (level : Nat) : Datum → List Char
  | .list (d :: rest) =>
    '[' :: (l.gap (level + 1) ++ (spell l (level + 1) d ++ (spellItems l (level + 1) rest ++
      (l.gap level ++ [']']))))
  | .record ((n, d) :: rest) =>
    '{' :: (l.gap (level + 1) ++ ((quoted n).toList ++ ':' :: (l.colon ++
      (spell l (level + 1) d ++ (spellFields l (level + 1) rest ++ (l.gap level ++ ['}']))))))
  | d => (scalar d).toList

/-- The items after the first. -/
def spellItems (l : Layout) (level : Nat) : List Datum → List Char
  | [] => []
  | d :: rest => ',' :: (l.gap level ++ (spell l level d ++ spellItems l level rest))

/-- The fields after the first. -/
def spellFields (l : Layout) (level : Nat) : List (String × Datum) → List Char
  | [] => []
  | (n, d) :: rest =>
    ',' :: (l.gap level ++ ((quoted n).toList ++ ':' :: (l.colon ++
      (spell l level d ++ spellFields l level rest))))

end

/-- A new line at a level is the gap of the layout with lines. -/
theorem toList_newline (level : Nat) : (newline level).toList = Layout.lines.gap level := by
  simp [newline, Layout.lines]

/-- Items are written on lines of their own if each is written as it is spelled. -/
theorem prettyItems_spell {level : Nat} {ds : List Datum}
    (h : ∀ d ∈ ds, (prettyAt level d).toList = spell .lines level d) :
    (prettyItems level ds).toList = spellItems .lines level ds := by
  induction ds with
  | nil => rfl
  | cons d rest ih =>
    simp [prettyItems, spellItems, toList_newline, h d (.head _), ih fun d hd => h d (.tail _ hd)]

/-- Fields are written on lines of their own if their values are written as they are spelled. -/
theorem prettyFields_spell {level : Nat} {fs : List (String × Datum)}
    (h : ∀ f ∈ fs, (prettyAt level f.2).toList = spell .lines level f.2) :
    (prettyFields level fs).toList = spellFields .lines level fs := by
  induction fs with
  | nil => rfl
  | cons f rest ih =>
    obtain ⟨n, d⟩ := f
    have hd := h (n, d) (.head _)
    simp [prettyFields, spellFields, toList_newline, hd, ih fun f hf => h f (.tail _ hf),
      Layout.lines]

/-- The layout of `pretty`. -/
theorem prettyAt_spell (level : Nat) (d : Datum) :
    (prettyAt level d).toList = spell .lines level d := by
  induction d using Datum.recData generalizing level with
  | null | bool b | int n | float x | text s | unreadable => rfl
  | list ds ih =>
    cases ds with
    | nil => rfl
    | cons d rest =>
      have hrest := prettyItems_spell fun d hd => ih d (.tail _ hd) (level + 1)
      simp [prettyAt, spell, toList_newline, ih d (.head _) (level + 1), hrest]
  | record fs ih =>
    cases fs with
    | nil => rfl
    | cons f rest =>
      obtain ⟨n, d⟩ := f
      have hrest := prettyFields_spell fun f hf => ih f (.tail _ hf) (level + 1)
      have hd := ih (n, d) (.head _) (level + 1)
      simp [prettyAt, spell, toList_newline, hd, hrest, Layout.lines]

/-- Items are written densely if each is written as it is spelled. -/
theorem compactItems_spell {level : Nat} {d : Datum} {rest : List Datum}
    (h : ∀ d' ∈ d :: rest, (compact d').toList = spell .dense level d') :
    (compactItems (d :: rest)).toList = spell .dense level d ++ spellItems .dense level rest := by
  induction rest generalizing d with
  | nil => simp [compactItems, spellItems, h d (.head _)]
  | cons next rest ih =>
    have hrest := ih fun d hd => h d (.tail _ hd)
    simp [compactItems, spellItems, h d (.head _), hrest, Layout.dense]

/-- Fields are written densely if their values are written as they are spelled. -/
theorem compactFields_spell {level : Nat} {f : String × Datum} {rest : List (String × Datum)}
    (h : ∀ f' ∈ f :: rest, (compact f'.2).toList = spell .dense level f'.2) :
    (compactFields (f :: rest)).toList = (quoted f.1).toList ++ ':' ::
      (spell .dense level f.2 ++ spellFields .dense level rest) := by
  induction rest generalizing f with
  | nil =>
    obtain ⟨n, d⟩ := f
    have hd := h (n, d) (.head _)
    simp [compactFields, spellFields, hd]
  | cons next rest ih =>
    obtain ⟨n, d⟩ := f
    have hd := h (n, d) (.head _)
    have hrest := ih fun f hf => h f (.tail _ hf)
    simp [compactFields, spellFields, hd, hrest, Layout.dense]

/-- The layout of `compact`. -/
theorem compact_spell (level : Nat) (d : Datum) : (compact d).toList = spell .dense level d := by
  induction d using Datum.recData generalizing level with
  | null | bool b | int n | float x | text s | unreadable => rfl
  | list ds ih =>
    cases ds with
    | nil => rfl
    | cons d rest =>
      have hitems := compactItems_spell fun d' hd => ih d' hd (level + 1)
      simp [compact, spell, hitems, Layout.dense]
  | record fs ih =>
    cases fs with
    | nil => rfl
    | cons f rest =>
      have hfields := compactFields_spell fun f' hf => ih f' hf (level + 1)
      simp [compact, spell, hfields, Layout.dense]

/-! ## Trees -/

/-- The text of a double is read back as the double, whatever follows it. -/
structure ReadsDouble (x : Float) : Prop where
  starts : ∃ c cs, (floatText x).toList = c :: cs ∧ c ∉ [']', '}', ' ', '\n', '\t', '\r']
  reads : ∀ fuel depth rest, Ends rest →
    value (fuel + 1) depth ((floatText x).toList ++ rest) = some (.float x, rest)

/-- Trees that the texts of JSON stand for without loss: the doubles are read back, and whole
numbers have 64 bits. -/
inductive Exact : Datum → Prop
  | null : Exact .null
  | bool {b : Bool} : Exact (.bool b)
  | int {n : Int} : -2 ^ 63 ≤ n → n < 2 ^ 64 → Exact (.int n)
  | float {x : Float} : ReadsDouble x → Exact (.float x)
  | text {s : String} : Exact (.text s)
  | list {ds : List Datum} : (∀ d ∈ ds, Exact d) → Exact (.list ds)
  | record {fs : List (String × Datum)} : (∀ f ∈ fs, Exact f.2) → Exact (.record fs)

@[simp] theorem exact_bool (b : Bool) : Exact (.bool b) := .bool

@[simp] theorem exact_text (s : String) : Exact (.text s) := .text

@[simp] theorem exact_int {n : Int} : Exact (.int n) ↔ -2 ^ 63 ≤ n ∧ n < 2 ^ 64 := by
  constructor
  · rintro ⟨⟩
    constructor <;> assumption
  · exact fun h => .int h.1 h.2

@[simp] theorem exact_list {ds : List Datum} : Exact (.list ds) ↔ ∀ d ∈ ds, Exact d := by
  constructor
  · rintro ⟨⟩
    assumption
  · exact .list

@[simp] theorem exact_record {fs : List (String × Datum)} :
    Exact (.record fs) ↔ ∀ f ∈ fs, Exact f.2 := by
  constructor
  · rintro ⟨⟩
    assumption
  · exact .record

mutual

/-- Whether a tree has no doubles, and whole numbers of 64 bits only. -/
def isPlain : Datum → Bool
  | .null | .bool _ | .text _ => true
  | .int n => decide (-2 ^ 63 ≤ n ∧ n < 2 ^ 64)
  | .float _ | .unreadable => false
  | .list items => arePlain items
  | .record fields => fieldsArePlain fields

/-- `isPlain` of each item of a list. -/
def arePlain : List Datum → Bool
  | [] => true
  | d :: rest => isPlain d && arePlain rest

/-- `isPlain` of each field of a record. -/
def fieldsArePlain : List (String × Datum) → Bool
  | [] => true
  | (_, d) :: rest => isPlain d && fieldsArePlain rest

end

mutual

/-- Without doubles nothing is lost in a text. -/
theorem exact_of_isPlain : ∀ {d : Datum}, isPlain d = true → Exact d
  | .null, _ => .null
  | .bool _, _ => .bool
  | .text _, _ => .text
  | .int _, h => exact_int.2 (of_decide_eq_true h)
  | .list _, h => .list (exact_of_arePlain h)
  | .record _, h => .record (exact_of_fieldsArePlain h)

/-- Plain items are written without loss. -/
theorem exact_of_arePlain : ∀ {ds : List Datum}, arePlain ds = true → ∀ d ∈ ds, Exact d
  | [], _ => nofun
  | _ :: _, h =>
    have ⟨hd, hrest⟩ := Bool.and_eq_true_iff.1 h
    List.forall_mem_cons.2 ⟨exact_of_isPlain hd, exact_of_arePlain hrest⟩

/-- The values of plain fields are written without loss. -/
theorem exact_of_fieldsArePlain :
    ∀ {fs : List (String × Datum)}, fieldsArePlain fs = true → ∀ f ∈ fs, Exact f.2
  | [], _ => nofun
  | (_, _) :: _, h =>
    have ⟨hd, hrest⟩ := Bool.and_eq_true_iff.1 h
    List.forall_mem_cons.2 ⟨exact_of_isPlain hd, exact_of_fieldsArePlain hrest⟩

end

/-- A field that is left out when it has no items is written without loss if its items are. -/
theorem exact_listField {α : Type} {name : String} {write : α → Datum} {items : List α} :
    (∀ f ∈ Datum.listField name write items, Exact f.2) ↔ ∀ a ∈ items, Exact (write a) := by
  cases items with
  | nil => exact ⟨nofun, nofun⟩
  | cons a rest => exact List.forall_mem_singleton.trans (exact_list.trans List.forall_mem_map)

/-- A value is read back from its text, whatever follows it, as far down as the reader goes, if that
may make two calls for each character. -/
def ReadsBack (l : Layout) (d : Datum) : Prop :=
  ∀ level fuel depth rest, 2 * (spell l level d).length ≤ fuel → Ends rest →
    value fuel depth (spell l level d ++ rest) = some (d.within (depth - 1), rest)

/-- A value may be followed by a comma, a closing bracket or a blank. -/
theorem ends_cons {c : Char} {rest : List Char} (h : c ∈ [',', ']', '}', ' ', '\n', '\t', '\r']) :
    Ends (c :: rest) := by
  intro c' hc'
  cases hc'
  exact h

/-- Blanks and what follows them end a value. -/
theorem ends_append {cs rest : List Char} (hcs : AreBlank cs) (hrest : Ends rest) :
    Ends (cs ++ rest) := by
  cases cs with
  | nil => exact hrest
  | cons c cs =>
    refine ends_cons ?_
    have hmem := hcs c (.head _)
    revert hmem
    simp only [List.mem_cons, List.not_mem_nil, or_false]
    rintro (rfl | rfl | rfl | rfl) <;> simp

/-- Digits start no other value than a number. -/
theorem value_digits {n : Nat} (hn : n < 2 ^ 64) (fuel depth : Nat) {rest : List Char}
    (hrest : Ends rest) :
    value (fuel + 1) depth (Nat.toDigits 10 n ++ rest) = some (.int n, rest) := by
  have hnumber := number_digits false hn hrest
  cases hds : Nat.toDigits 10 n with
  | nil => exact absurd hds Nat.toDigits_ne_nil
  | cons c cs =>
    have hc : c.isDigit = true :=
      Nat.isDigit_of_mem_toDigits (by decide) (by decide) (hds ▸ List.mem_cons_self)
    rw [hds, List.cons_append] at hnumber
    rw [List.cons_append, value]
    · rw [if_pos hc]
      simpa [signed] using hnumber
    all_goals
      rintro rfl
      exact absurd hc (by decide)

/-- A natural number is written as its digits. -/
theorem toList_toString_ofNat (n : Nat) : (toString (Int.ofNat n)).toList = Nat.toDigits 10 n := by
  change (toString n).toList = _
  rw [Nat.toString_eq_ofList_toDigits, String.toList_ofList]

/-- A negative number is written as a minus sign and its digits. -/
theorem toList_toString_negSucc (n : Nat) :
    (toString (Int.negSucc n)).toList = '-' :: Nat.toDigits 10 (n + 1) := by
  change ("-" ++ toString (n + 1)).toList = _
  simp

/-- A whole number of 64 bits is read back. -/
theorem value_int {n : Int} (hlow : -2 ^ 63 ≤ n) (hhigh : n < 2 ^ 64) (fuel depth : Nat)
    {rest : List Char} (hrest : Ends rest) :
    value (fuel + 1) depth ((toString n).toList ++ rest) = some (.int n, rest) := by
  cases n with
  | ofNat n =>
    rw [toList_toString_ofNat]
    exact value_digits (Int.ofNat_lt.1 hhigh) fuel depth hrest
  | negSucc n =>
    have hbound : n + 1 ≤ 2 ^ 63 := by omega
    have hsigned : signed true (n + 1) = .int (Int.negSucc n) := by
      have hno : ¬ (n + 1 = 0 ∨ Decimal.twoTo 63 < n + 1) := by
        rintro (h | h)
        · cases h
        · exact absurd hbound (Nat.not_le_of_lt h)
      rw [signed, if_neg (by decide), if_neg hno]
      rfl
    rw [toList_toString_negSucc, List.cons_append, value, number_digits true (by omega) hrest,
      hsigned]

/-- The text of a value starts with a character that is no blank and closes nothing. -/
theorem spell_starts (l : Layout) (level : Nat) {d : Datum} (hd : Exact d) :
    ∃ c cs, spell l level d = c :: cs ∧ c ∉ [']', '}', ' ', '\n', '\t', '\r'] := by
  cases hd with
  | null => exact ⟨'n', ['u', 'l', 'l'], rfl, by decide⟩
  | @bool b =>
    cases b
    · exact ⟨'f', ['a', 'l', 's', 'e'], rfl, by decide⟩
    · exact ⟨'t', ['r', 'u', 'e'], rfl, by decide⟩
  | @int n _ _ =>
    cases n with
    | ofNat n =>
      obtain ⟨c, cs, hds⟩ := List.exists_cons_of_ne_nil (Nat.toDigits_ne_nil (b := 10) (n := n))
      refine ⟨c, cs, (toList_toString_ofNat n).trans hds, ?_⟩
      have hc : c.isDigit = true :=
        Nat.isDigit_of_mem_toDigits (by decide) (by decide) (hds ▸ List.mem_cons_self)
      intro hmem
      simp only [List.mem_cons, List.not_mem_nil, or_false] at hmem
      rcases hmem with rfl | rfl | rfl | rfl | rfl | rfl <;> exact absurd hc (by decide)
    | negSucc n => exact ⟨'-', _, toList_toString_negSucc n, by decide⟩
  | @float x hx => exact hx.starts
  | @text s => exact ⟨'"', _, toList_quoted s, by decide⟩
  | @list ds _ =>
    cases ds with
    | nil => exact ⟨'[', [']'], rfl, by decide⟩
    | cons d rest => exact ⟨'[', _, by rw [spell], by decide⟩
  | @record fs _ =>
    cases fs with
    | nil => exact ⟨'{', ['}'], rfl, by decide⟩
    | cons f rest => exact ⟨'{', _, by rw [spell], by decide⟩

/-- Blanks in front of a value are skipped. -/
theorem skip_spell (l : Layout) (level : Nat) {d : Datum} (hd : Exact d) {gap : List Char}
    (hgap : AreBlank gap) (rest : List Char) :
    skip (gap ++ (spell l level d ++ rest)) = spell l level d ++ rest := by
  obtain ⟨c, cs, hspell, hc⟩ := spell_starts l level hd
  rw [skip_append hgap, hspell, List.cons_append, skip_cons fun h => hc (by simp_all)]

/-- The items of a list are read back up to its closing bracket. -/
theorem items_spell (l : Layout) (level fuel depth : Nat) (acc : List Datum) {d : Datum}
    {ds : List Datum} (hds : ∀ d' ∈ d :: ds, Exact d' ∧ ReadsBack l d')
    {gap : List Char} (hgap : AreBlank gap) (rest : List Char)
    (hfuel : 2 * (spell l level d ++ spellItems l level ds).length < fuel) :
    items fuel depth acc (spell l level d ++ (spellItems l level ds ++ (gap ++ ']' :: rest))) =
      some (.list (acc.reverse ++ (d :: ds).map (Datum.within (depth - 1))), rest) := by
  induction ds generalizing fuel acc d with
  | nil =>
    obtain ⟨fuel, rfl⟩ : ∃ k, fuel = k + 1 := ⟨fuel - 1, by omega⟩
    obtain ⟨-, hread⟩ := hds d (.head _)
    rw [spellItems, List.append_nil] at hfuel
    rw [spellItems, List.nil_append, items,
      hread level fuel depth _ (by omega) (ends_append hgap (ends_cons (by decide)))]
    simp [skip_append hgap, skip_cons (c := ']') (by decide)]
  | cons next ds ih =>
    obtain ⟨fuel, rfl⟩ : ∃ k, fuel = k + 1 := ⟨fuel - 1, by omega⟩
    obtain ⟨-, hread⟩ := hds d (.head _)
    obtain ⟨hnext, -⟩ := hds next (.tail _ (.head _))
    simp only [spellItems, List.length_append, List.length_cons] at hfuel
    have hrest := ih fuel (d.within (depth - 1) :: acc) (fun d' hd' => hds d' (.tail _ hd'))
      (by simp only [List.length_append]; omega)
    rw [items, hread level fuel depth _ (by omega) ?_]
    · simp only [spellItems, List.cons_append, List.append_assoc]
      rw [Option.bind_eq_bind, Option.bind_some]
      simp only [skip_cons (c := ',') (by decide)]
      rw [skip_spell l level hnext (l.gap_blank level), hrest]
      simp
    · exact ends_cons (by decide)

/-- The fields of a record are read back up to its closing brace. -/
theorem members_spell (l : Layout) (level fuel depth : Nat) (acc : List (String × Datum))
    {f : String × Datum} {fs : List (String × Datum)}
    (hfs : ∀ f' ∈ f :: fs, Exact f'.2 ∧ ReadsBack l f'.2)
    {gap : List Char} (hgap : AreBlank gap) (rest : List Char)
    (hfuel : 2 * (spell l level f.2 ++ spellFields l level fs).length < fuel) :
    members fuel depth (some acc) ((quoted f.1).toList ++ ':' :: (l.colon ++
        (spell l level f.2 ++ (spellFields l level fs ++ (gap ++ '}' :: rest))))) =
      some (.record (acc.reverse ++ (f :: fs).map fun f => (f.1, f.2.within (depth - 1))),
        rest) := by
  induction fs generalizing fuel acc f with
  | nil =>
    obtain ⟨fuel, rfl⟩ : ∃ k, fuel = k + 1 := ⟨fuel - 1, by omega⟩
    obtain ⟨hd, hread⟩ := hfs f (.head _)
    rw [spellFields, List.append_nil] at hfuel
    have hvalue := hread level fuel depth (gap ++ '}' :: rest) (by omega)
      (ends_append hgap (ends_cons (by decide)))
    rw [spellFields, List.nil_append, toList_quoted, List.cons_append, List.append_assoc,
      List.singleton_append, members]
    simp [text_quoted, skip_cons (c := ':') (by decide), skip_spell l level hd l.colon_blank,
      hvalue, skip_append hgap, skip_cons (c := '}') (by decide)]
  | cons next fs ih =>
    obtain ⟨fuel, rfl⟩ : ∃ k, fuel = k + 1 := ⟨fuel - 1, by omega⟩
    obtain ⟨hd, hread⟩ := hfs f (.head _)
    obtain ⟨n, d⟩ := next
    simp only [spellFields, List.length_append, List.length_cons] at hfuel
    have hrest := ih fuel ((f.1, f.2.within (depth - 1)) :: acc)
      (fun f' hf' => hfs f' (.tail _ hf'))
      (by simp only [List.length_append]; omega)
    have hvalue := hread level fuel depth
      (spellFields l level ((n, d) :: fs) ++ (gap ++ '}' :: rest)) (by omega)
      (ends_cons (by decide))
    rw [toList_quoted, List.cons_append, List.append_assoc, List.singleton_append, members]
    simp only [text_quoted, Option.bind_eq_bind, Option.bind_some,
      skip_cons (c := ':') (by decide), skip_spell l level hd l.colon_blank, hvalue]
    have hname : skip (l.gap level ++ ((quoted n).toList ++ ':' :: (l.colon ++ (spell l level d ++
        (spellFields l level fs ++ (gap ++ '}' :: rest)))))) =
        (quoted n).toList ++ ':' :: (l.colon ++ (spell l level d ++
          (spellFields l level fs ++ (gap ++ '}' :: rest)))) := by
      rw [skip_append (l.gap_blank level), toList_quoted, List.cons_append, skip_cons (by decide)]
    simp only [spellFields, List.cons_append, List.append_assoc, skip_cons (c := ',') (by decide)]
    rw [hname]
    simpa using hrest

/-- The reader has a call left for every value. -/
theorem exists_fuel (l : Layout) {level fuel : Nat} {d : Datum} (hd : Exact d)
    (h : 2 * (spell l level d).length ≤ fuel) : ∃ k, fuel = k + 1 := by
  obtain ⟨c, cs, hspell, -⟩ := spell_starts l level hd
  rw [hspell, List.length_cons] at h
  exact ⟨fuel - 1, by omega⟩

/-- A list is read with its items cut one level earlier. -/
theorem nested_list (depth : Nat) (ds : List Datum) :
    nested depth (.list (ds.map (Datum.within (depth - 1 - 1)))) =
      (Datum.list ds).within (depth - 1) := by
  rw [nested]
  split
  · next h => rw [show depth - 1 = 0 by omega, Datum.within_list_zero]
  · next h => rw [show depth - 1 = depth - 1 - 1 + 1 by omega, Datum.within_list_succ]; rfl

/-- A record is read with the values of its fields cut one level earlier. -/
theorem nested_record (depth : Nat) (fs : List (String × Datum)) :
    nested depth (.record (fs.map fun f => (f.1, f.2.within (depth - 1 - 1)))) =
      (Datum.record fs).within (depth - 1) := by
  rw [nested]
  split
  · next h => rw [show depth - 1 = 0 by omega, Datum.within_record_zero]
  · next h => rw [show depth - 1 = depth - 1 - 1 + 1 by omega, Datum.within_record_succ]; rfl

/-- A list is read back if its items are. -/
theorem value_list (l : Layout) {ds : List Datum} (hds : ∀ d ∈ ds, Exact d ∧ ReadsBack l d) :
    ReadsBack l (.list ds) := by
  intro level fuel depth rest hfuel _
  obtain ⟨fuel, rfl⟩ := exists_fuel l (.list fun d hd => (hds d hd).1) hfuel
  rw [← nested_list]
  cases ds with
  | nil =>
    change value (fuel + 1) depth ('[' :: ']' :: rest) = _
    simp [value, skip_cons (c := ']') (by decide)]
  | cons d ds =>
    simp only [spell, List.length_cons, List.length_append] at hfuel
    have hread := items_spell l (level + 1) fuel (depth - 1) [] hds
      (l.gap_blank level) rest (by simp only [List.length_append]; omega)
    obtain ⟨c, cs, hspell, hc⟩ := spell_starts l (level + 1) (hds d (.head _)).1
    have hopen := skip_spell l (level + 1) (hds d (.head _)).1 (l.gap_blank (level + 1))
    rw [spell, List.cons_append, value]
    simp only [List.append_assoc, List.singleton_append, hopen]
    split
    · next hclose =>
      rw [hspell, List.cons_append, List.cons.injEq] at hclose
      exact absurd (by simp [hclose.1]) hc
    · rw [hread]
      simp

/-- A record is read back if its fields are. -/
theorem value_record (l : Layout) {fs : List (String × Datum)}
    (hfs : ∀ f ∈ fs, Exact f.2 ∧ ReadsBack l f.2) : ReadsBack l (.record fs) := by
  intro level fuel depth rest hfuel _
  obtain ⟨fuel, rfl⟩ := exists_fuel l (.record fun f hf => (hfs f hf).1) hfuel
  rw [← nested_record]
  cases fs with
  | nil =>
    change value (fuel + 1) depth ('{' :: '}' :: rest) = _
    simp [value, skip_cons (c := '}') (by decide)]
  | cons f fs =>
    obtain ⟨n, d⟩ := f
    simp only [spell, List.length_cons, List.length_append] at hfuel
    have hread := members_spell l (level + 1) fuel (depth - 1) [] hfs
      (l.gap_blank level) rest (by simp only [List.length_append]; omega)
    simp only [toList_quoted, List.cons_append, List.append_assoc, List.nil_append] at hread
    rw [spell, List.cons_append, value]
    simp only [List.append_assoc, List.cons_append, List.nil_append,
      skip_append (l.gap_blank (level + 1)), toList_quoted, skip_cons (c := '"') (by decide)]
    split
    · next hclose => cases hclose
    · rw [hread]
      simp

/-- A tree is read back from its text in a layout, as far down as the reader goes. -/
theorem value_spell (l : Layout) {d : Datum} (hd : Exact d) : ReadsBack l d := by
  induction d using Datum.recData with
  | null =>
    intro level fuel depth rest hfuel _
    obtain ⟨fuel, rfl⟩ := exists_fuel l hd hfuel
    rfl
  | bool b =>
    intro level fuel depth rest hfuel _
    obtain ⟨fuel, rfl⟩ := exists_fuel l hd hfuel
    cases b <;> rfl
  | int n =>
    intro level fuel depth rest hfuel hrest
    obtain ⟨fuel, rfl⟩ := exists_fuel l hd hfuel
    cases hd with
    | int hlow hhigh => exact value_int hlow hhigh fuel depth hrest
  | float x =>
    intro level fuel depth rest hfuel hrest
    obtain ⟨fuel, rfl⟩ := exists_fuel l hd hfuel
    cases hd with
    | float hx => exact hx.reads fuel depth rest hrest
  | text s =>
    intro level fuel depth rest hfuel _
    obtain ⟨fuel, rfl⟩ := exists_fuel l hd hfuel
    change value (fuel + 1) depth ((quoted s).toList ++ rest) = _
    rw [toList_quoted, List.cons_append, List.append_assoc, List.singleton_append, value,
      text_quoted]
    rfl
  | unreadable => cases hd
  | list ds ih =>
    cases hd with
    | list hds => exact value_list l fun d hd => ⟨hds d hd, ih d hd (hds d hd)⟩
  | record fs ih =>
    cases hd with
    | record hfs => exact value_record l fun f hf => ⟨hfs f hf, ih f hf (hfs f hf)⟩

/-- A text that is the layout of a tree with a line end stands for the tree, cut off where the
reader stops. -/
theorem parse?_spell (l : Layout) {d : Datum} (hd : Exact d) {s : String}
    (hs : s.toList = spell l 0 d ++ ['\n']) : parse? s = some (d.within (depthLimit - 1)) := by
  have hblank : AreBlank ['\n'] := fun c hc => by rw [List.mem_singleton.1 hc]; decide
  have hempty : AreBlank [] := nofun
  have hskip : skip s.toList = spell l 0 d ++ ['\n'] := by
    rw [hs]
    exact skip_spell l 0 hd hempty ['\n']
  have hvalue := value_spell l hd 0 (2 * (spell l 0 d ++ ['\n']).length + 2) depthLimit ['\n']
    (by simp only [List.length_append]; omega) (ends_cons (by decide))
  have hend : skip ['\n'] = [] := by decide
  rw [parse?]
  simp only [hskip, hvalue, hend]
  rfl

/-- What is written on many lines is read back. -/
theorem parse?_pretty {d : Datum} (hd : Exact d) :
    parse? (pretty d ++ "\n") = some (d.within (depthLimit - 1)) := by
  refine parse?_spell .lines hd ?_
  rw [String.toList_append, pretty, prettyAt_spell]
  rfl

/-- What is written without blanks is read back. -/
theorem parse?_compact {d : Datum} (hd : Exact d) :
    parse? (compact d ++ "\n") = some (d.within (depthLimit - 1)) := by
  refine parse?_spell .dense hd ?_
  rw [String.toList_append, compact_spell 0]
  rfl

end Json

end Wiring
