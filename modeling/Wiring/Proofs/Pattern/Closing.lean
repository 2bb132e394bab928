import Mathlib.Data.List.Infix
import Wiring.Pattern.Reader

/-!
# Reading in front of a closing bracket

The text of a pattern may stand in front of a bracket that closes a group around it. Reading the
text there goes as it does when the text stands alone, unless it goes beyond the text: an escape, a
comment or a group that is open at the end of the text takes the bracket for its own. A reader that
takes from the front and has this property is a `Reads`; a function that only passes characters over
is a `Skips`.
-/

namespace Wiring.Pattern

/-- What closes the group around the text of a pattern that has to match all of a text. -/
def closing : List Char := [')', '$']

/-- A function that passes characters over. In front of the closing bracket it stops where it stops
without, or it passes everything. -/
structure Skips (skip : List Char → List Char) : Prop where
  suffix : ∀ cs, skip cs <:+ cs
  closing : ∀ cs, skip (cs ++ closing) = skip cs ++ closing ∨ skip (cs ++ closing) = []

/-- A reader that takes from the front. If in front of the closing bracket it leaves the bracket,
then it reads the same without and leaves the same in front of the bracket, or what it leaves there
is of some kind. -/
structure ReadsOr {α : Type} (P : α → List Char → Prop) (read : Reader α) : Prop where
  suffix : ∀ {cs a rest}, read cs = some (a, rest) → rest <:+ cs
  closing : ∀ {cs a rest}, read (cs ++ closing) = some (a, rest) → 2 ≤ rest.length →
    ∃ r, rest = r ++ closing ∧ (read cs = some (a, r) ∨ P a r)

/-- A reader that reads the same without the closing bracket. -/
abbrev Reads {α : Type} (read : Reader α) : Prop :=
  ReadsOr (fun _ _ => False) read

section
variable {α β : Type} {cs rest r : List Char}

/-- A text that does not begin with a character has another first one or none. -/
theorem head?_ne {c : Char} (h : ∀ tail, cs = c :: tail → False) : cs.head? ≠ some c := by
  intro hhead
  obtain ⟨tail, htail⟩ := List.head?_eq_some_iff.1 hhead
  exact h tail htail

/-- What is passed over in two steps stops at the same place. -/
theorem Skips.comp {skip skip' : List Char → List Char} (h : Skips skip) (h' : Skips skip') :
    Skips fun cs => skip' (skip cs) where
  suffix cs := (h'.suffix _).trans (h.suffix cs)
  closing cs := by
    rcases h.closing cs with heq | hnil
    · rw [heq]
      exact h'.closing _
    · rw [hnil]
      exact .inr (List.suffix_nil.1 (h'.suffix []))

/-- What leaves more than the closing bracket is read the same without it. -/
theorem Reads.alone {read : Reader α} (h : Reads read) {a : α}
    (hread : read (cs ++ closing) = some (a, rest)) (hlen : 2 ≤ rest.length) :
    ∃ r, rest = r ++ closing ∧ read cs = some (a, r) := by
  obtain ⟨r, hr, hread | hfalse⟩ := h.closing hread hlen
  · exact ⟨r, hr, hread⟩
  · exact hfalse.elim

namespace ReadsOr

variable {P : α → List Char → Prop} {read read' : Reader α}

/-- A reader may get stuck in more ways. -/
theorem mono {Q : α → List Char → Prop} (h : ReadsOr P read) (hPQ : ∀ a r, P a r → Q a r) :
    ReadsOr Q read where
  suffix := h.suffix
  closing hread hlen := by
    obtain ⟨r, hr, halone⟩ := h.closing hread hlen
    exact ⟨r, hr, halone.imp_right (hPQ _ r)⟩

/-- A reader that reads the same gets stuck in the same ways. -/
theorem congr (h : ReadsOr P read) (heq : ∀ cs, read' cs = read cs) : ReadsOr P read' :=
  funext heq ▸ h

/-- A reader that takes nothing reads the same. -/
theorem pure (a : α) : ReadsOr P fun cs => some (a, cs) where
  suffix h := by
    cases h
    exact List.suffix_rfl
  closing h _ := by
    cases h
    exact ⟨_, rfl, .inl rfl⟩

/-- A reader that refuses everything reads the same. -/
theorem none : ReadsOr P (fun _ => none : Reader α) where
  suffix h := nomatch h
  closing h := nomatch h

/-- A reader that only looks whether something is there reads the same. -/
theorem const (o : Option α) : ReadsOr P fun cs => o.map (·, cs) := by
  cases o with
  | none => exact none
  | some a => exact pure a

/-- A reader that depends on something given reads the same if it does each time. -/
theorem lift {o : Option β} {read : β → Reader α} (h : ∀ b, ReadsOr P (read b)) :
    ReadsOr P fun cs => o >>= fun b => read b cs := by
  cases o with
  | none => exact none
  | some b => exact h b

/-- A choice between two readers reads the same if both do. -/
theorem ite {c : Prop} [Decidable c] (h : ReadsOr P read) (h' : ReadsOr P read') :
    ReadsOr P fun cs => if c then read cs else read' cs := by
  split
  · exact h
  · exact h'

/-- A reader behind what is passed over reads the same. -/
theorem skip {skip : List Char → List Char} (hr : ReadsOr P read) (hs : Skips skip) :
    ReadsOr P fun cs => read (skip cs) where
  suffix h := (hr.suffix h).trans (hs.suffix _)
  closing {cs a rest} h hlen := by
    rcases hs.closing cs with heq | hnil
    · exact hr.closing (heq ▸ h) hlen
    · rw [hnil] at h
      rw [List.suffix_nil.1 (hr.suffix h)] at hlen
      cases hlen

/-- Two readers, one after the other, read the same if both do. -/
theorem bind {read : Reader β} {next : β × List Char → Option (α × List Char)} (hr : Reads read)
    (hn : ∀ b, ReadsOr P fun cs => next (b, cs)) : ReadsOr P fun cs => read cs >>= next where
  suffix h := by
    obtain ⟨⟨b, rest⟩, hb, h⟩ := Option.bind_eq_some_iff.1 h
    exact ((hn b).suffix h).trans (hr.suffix hb)
  closing h hlen := by
    obtain ⟨⟨b, rest⟩, hb, h⟩ := Option.bind_eq_some_iff.1 h
    obtain ⟨r, rfl, hr'⟩ := hr.alone hb (Nat.le_trans hlen ((hn b).suffix h).length_le)
    obtain ⟨r', rfl, hn'⟩ := (hn b).closing h hlen
    exact ⟨r', rfl, hn'.imp_left fun hn' => Option.bind_eq_some_iff.2 ⟨_, hr', hn'⟩⟩

/-- What is left of a kind of its own leads to nothing. -/
theorem bind_of_short {Q : β → List Char → Prop} {read : Reader β}
    {next : β × List Char → Option (α × List Char)} (hr : ReadsOr Q read)
    (hn : ∀ b, ReadsOr P fun cs => next (b, cs))
    (hshort : ∀ b r a rest, Q b r →
      next (b, r ++ Pattern.closing) = some (a, rest) → rest.length < 2) :
    ReadsOr P fun cs => read cs >>= next where
  suffix h := by
    obtain ⟨⟨b, rest⟩, hb, h⟩ := Option.bind_eq_some_iff.1 h
    exact ((hn b).suffix h).trans (hr.suffix hb)
  closing h hlen := by
    obtain ⟨⟨b, rest⟩, hb, h⟩ := Option.bind_eq_some_iff.1 h
    obtain ⟨r, rfl, hr' | hQ⟩ := hr.closing hb (Nat.le_trans hlen ((hn b).suffix h).length_le)
    · obtain ⟨r', rfl, hn'⟩ := (hn b).closing h hlen
      exact ⟨r', rfl, hn'.imp_left fun hn' => Option.bind_eq_some_iff.2 ⟨_, hr', hn'⟩⟩
    · exact absurd hlen (Nat.not_le.2 (hshort b r _ _ hQ h))

/-- A reader whose result is changed reads the same. -/
theorem map {Q : β → List Char → Prop} {read : Reader β} (hr : ReadsOr Q read) (f : β → α)
    (hQP : ∀ b r, Q b r → P (f b) r) : ReadsOr P fun cs => (read cs).map fun x => (f x.1, x.2) where
  suffix h := by
    obtain ⟨⟨b, rest⟩, hb, heq⟩ := Option.map_eq_some_iff.1 h
    cases heq
    exact hr.suffix hb
  closing h hlen := by
    obtain ⟨⟨b, rest⟩, hb, heq⟩ := Option.map_eq_some_iff.1 h
    cases heq
    obtain ⟨r, hr, halone⟩ := hr.closing hb hlen
    exact ⟨r, hr, halone.imp (fun halone => by rw [halone]; rfl) (hQP b r)⟩

/-- What is left of a kind of its own is passed on. -/
theorem filterMap {Q : β → List Char → Prop} {read : Reader β} {f : β → Option α}
    (hr : ReadsOr Q read) (hQP : ∀ b r a, Q b r → f b = some a → P a r) :
    ReadsOr P fun cs => read cs >>= fun x => (f x.1).map (·, x.2) where
  suffix h := by
    obtain ⟨⟨b, rest⟩, hb, h⟩ := Option.bind_eq_some_iff.1 h
    obtain ⟨a, -, heq⟩ := Option.map_eq_some_iff.1 h
    cases heq
    exact hr.suffix hb
  closing {_ a _} h hlen := by
    obtain ⟨⟨b, rest⟩, hb, h⟩ := Option.bind_eq_some_iff.1 h
    obtain ⟨a', ha, heq⟩ := Option.map_eq_some_iff.1 h
    cases heq
    obtain ⟨r, rfl, hr'⟩ := hr.closing hb hlen
    refine ⟨r, rfl, hr'.imp (fun hr' => ?_) fun hQ => hQP b r a hQ ha⟩
    exact Option.bind_eq_some_iff.2 ⟨_, hr', congrArg (Option.map (·, r)) ha⟩

/-- A reader that begins with one character, which is not the closing bracket's if it leaves that.
-/
theorem cons (hnil : read [] = Option.none) (h : ∀ c, ReadsOr P fun cs => read (c :: cs)) :
    ReadsOr P read where
  suffix {cs a rest} hread := by
    cases cs with
    | nil => exact nomatch hnil.symm.trans hread
    | cons c cs => exact ((h c).suffix hread).trans (List.suffix_cons c cs)
  closing {cs a rest} hread hlen := by
    cases cs with
    | nil =>
      have hle : rest.length ≤ 1 := ((h ')').suffix hread).length_le
      omega
    | cons c cs => exact (h c).closing hread hlen

/-- A reader that looks at the first character to choose how it goes on. -/
theorem ite_head {c : Char} (hc : c ≠ ')') (h : ReadsOr P read) (h' : ReadsOr P read') :
    ReadsOr P fun cs => if cs.head? = some c then read (cs.drop 1) else read' cs where
  suffix hread := by
    split at hread
    · exact (h.suffix hread).trans (List.drop_suffix 1 _)
    · exact h'.suffix hread
  closing {cs a rest} hread hlen := by
    cases cs with
    | nil =>
      rw [if_neg (by simpa [Pattern.closing] using hc.symm)] at hread
      exact h'.closing hread hlen
    | cons d cs =>
      by_cases hd : d = c
      · subst hd
        simp only [List.cons_append, List.head?_cons, if_true, List.drop_one,
          List.tail_cons] at hread ⊢
        exact h.closing hread hlen
      · simp only [List.head?_cons, Option.some.injEq, hd, if_false, List.cons_append] at hread ⊢
        exact h'.closing hread hlen

/-- A reader that does not begin with one character. -/
theorem unless_head {c : Char} (h : ReadsOr P read) :
    ReadsOr P fun cs => if cs.head? = some c then Option.none else read cs where
  suffix hread := by
    split at hread
    · cases hread
    · exact h.suffix hread
  closing {cs a rest} hread hlen := by
    split at hread
    · cases hread
    · next hhead =>
      have hcs : cs.head? ≠ some c := by
        cases cs with
        | nil => nofun
        | cons d cs => exact hhead
      rw [if_neg hcs]
      exact h.closing hread hlen

end ReadsOr

/-! ## Blanks and comments -/

/-- Blanks and comments are passed over to the same place. -/
theorem skips_skipSpaced (flags : Flags) :
    Skips (skipSpaced flags) ∧ Skips (skipSpaced.comment flags) := by
  have hsuffix : ∀ cs, skipSpaced flags cs <:+ cs ∧ skipSpaced.comment flags cs <:+ cs := by
    intro cs
    induction cs with
    | nil => simp [skipSpaced, skipSpaced.comment]
    | cons c cs ih =>
      have hs := ih.1.trans (List.suffix_cons c cs)
      have hc := ih.2.trans (List.suffix_cons c cs)
      constructor
      · rw [skipSpaced]
        split_ifs
        · exact List.suffix_rfl
        · exact hs
        · exact hc
        · exact List.suffix_rfl
      · rw [skipSpaced.comment]
        split_ifs
        · exact hs
        · exact hc
  have hclosing : ∀ cs, (skipSpaced flags (cs ++ closing) = skipSpaced flags cs ++ closing ∨
      skipSpaced flags (cs ++ closing) = []) ∧
      (skipSpaced.comment flags (cs ++ closing) = skipSpaced.comment flags cs ++ closing ∨
        skipSpaced.comment flags (cs ++ closing) = []) := by
    intro cs
    induction cs with
    | nil =>
      have hblank : Text.isBlank ')' = false := by decide
      simp [skipSpaced, skipSpaced.comment, closing, hblank]
    | cons c cs ih =>
      rw [List.cons_append, skipSpaced, skipSpaced, skipSpaced.comment, skipSpaced.comment]
      constructor
      · split_ifs
        · exact .inl rfl
        · exact ih.1
        · exact ih.2
        · exact .inl rfl
      · split_ifs
        · exact ih.1
        · exact ih.2
  exact ⟨⟨fun cs => (hsuffix cs).1, fun cs => (hclosing cs).1⟩,
    ⟨fun cs => (hsuffix cs).2, fun cs => (hclosing cs).2⟩⟩

/-- Blanks are passed over to the same place. -/
theorem skips_spaced (flags : Flags) : Skips (skipSpaced flags) :=
  (skips_skipSpaced flags).1

/-- The mark of a lazy repetition is passed over to the same place. -/
theorem skips_skipLazy : Skips skipLazy where
  suffix cs := by
    rw [skipLazy.eq_def]
    split
    · exact List.suffix_cons _ _
    · exact List.suffix_rfl
  closing cs := by
    left
    cases cs with
    | nil => rfl
    | cons c cs =>
      rw [List.cons_append, skipLazy.eq_def, skipLazy.eq_def]
      by_cases hc : c = '?'
      · subst hc
        rfl
      · split
        · next h => exact absurd (List.cons.inj h).1 hc
        · split
          · next h => exact absurd (List.cons.inj h).1 hc
          · rfl

/-! ## Escapes -/

/-- Characters between braces, and comments among them, are read the same. -/
theorem reads_collect (flags : Flags) (acc : List Char) :
    Reads (braced.collect flags acc) ∧ Reads (braced.comment flags acc) := by
  -- each of the two goes over to the other, so both are followed at once down the text
  have hsuffix : ∀ cs acc ds rest, (braced.collect flags acc cs = some (ds, rest) → rest <:+ cs) ∧
      (braced.comment flags acc cs = some (ds, rest) → rest <:+ cs) := by
    intro cs
    induction cs with
    | nil => simp [braced.collect, braced.comment]
    | cons c cs ih =>
      intro acc ds rest
      have hcons : cs <:+ c :: cs := List.suffix_cons c cs
      rw [braced.collect, braced.comment]
      constructor
      · split_ifs
        · rintro ⟨⟩
          exact hcons
        · exact fun h => ((ih _ _ _).1 h).trans hcons
        · exact fun h => ((ih _ _ _).2 h).trans hcons
        · exact fun h => ((ih _ _ _).1 h).trans hcons
      · split_ifs
        · exact fun h => ((ih _ _ _).1 h).trans hcons
        · exact fun h => ((ih _ _ _).2 h).trans hcons
  have hclosing : ∀ cs acc ds rest, 2 ≤ rest.length →
      (braced.collect flags acc (cs ++ closing) = some (ds, rest) →
        ∃ r, rest = r ++ closing ∧ braced.collect flags acc cs = some (ds, r)) ∧
      (braced.comment flags acc (cs ++ closing) = some (ds, rest) →
        ∃ r, rest = r ++ closing ∧ braced.comment flags acc cs = some (ds, r)) := by
    intro cs
    induction cs with
    | nil =>
      have hblank : Text.isBlank ')' = false ∧ Text.isBlank '$' = false := by decide
      simp [braced.collect, braced.comment, closing, hblank]
    | cons c cs ih =>
      intro acc ds rest hlen
      rw [List.cons_append, braced.collect, braced.collect, braced.comment, braced.comment]
      constructor
      · split_ifs
        · rintro ⟨⟩
          exact ⟨cs, rfl, rfl⟩
        · exact (ih _ _ _ hlen).1
        · exact (ih _ _ _ hlen).2
        · exact (ih _ _ _ hlen).1
      · split_ifs
        · exact (ih _ _ _ hlen).1
        · exact (ih _ _ _ hlen).2
  refine ⟨⟨(hsuffix _ _ _ _).1, fun h hlen => ?_⟩, ⟨(hsuffix _ _ _ _).2, fun h hlen => ?_⟩⟩
  · obtain ⟨r, hr, halone⟩ := (hclosing _ _ _ _ hlen).1 h
    exact ⟨r, hr, .inl halone⟩
  · obtain ⟨r, hr, halone⟩ := (hclosing _ _ _ _ hlen).2 h
    exact ⟨r, hr, .inl halone⟩

/-- Characters between braces are read the same. -/
theorem reads_braced (flags : Flags) : Reads (braced flags) :=
  (reads_collect flags []).1

/-- One more character. -/
def takenNext (read : Reader (List Char)) : Reader (List Char)
  | [] => none
  | c :: cs => (read cs).map fun x => (c :: x.1, x.2)

/-- A number of characters is read the same. -/
theorem reads_taken (flags : Flags) (count : Nat) : Reads (taken flags count) := by
  induction count with
  | zero => exact .pure []
  | succ count ih =>
    have hnext : Reads (takenNext (taken flags count)) :=
      .cons rfl fun c => ih.map (c :: ·) fun _ _ => id
    exact hnext.skip (skips_spaced flags)

/-- The escape of a code point, if the digits that were read are those of one. -/
def codePoint? (isByte : Bool) (x : List Char × List Char) : Option (Escape × List Char) :=
  if x.1.isEmpty then none
  else do return (.char (← charOf? (← Text.Ranges.hexNumber? x.1)) isByte, x.2)

/-- The digits of a code point stand between braces, or there is a fixed number of them. -/
theorem hexEscape_eq (width : Nat) (flags : Flags) (cs : List Char) : hexEscape width flags cs =
    if (skipSpaced flags cs).head? = some '{' then
      braced flags ((skipSpaced flags cs).drop 1) >>= codePoint? false
    else taken flags width (skipSpaced flags cs) >>= codePoint? (width = 2) := by
  simp only [hexEscape]
  split
  · next h =>
    congr 1
    funext x
    simp [codePoint?, h]
  · next h =>
    congr 1
    funext x
    simp [codePoint?, h]

/-- A code point is read the same from its digits. -/
theorem reads_codePoint? (isByte : Bool) (digits : List Char) :
    Reads fun rest => codePoint? isByte (digits, rest) := by
  have hpoint : Reads fun rest => Text.Ranges.hexNumber? digits >>= fun n => charOf? n >>= fun c =>
      some (Escape.char c isByte, rest) := .lift fun n => .lift fun c => .pure _
  have hif : Reads fun rest => if digits.isEmpty then none else Text.Ranges.hexNumber? digits >>=
      fun n => charOf? n >>= fun c => some (Escape.char c isByte, rest) := .ite .none hpoint
  exact hif

/-- The escape of a code point is read the same. -/
theorem reads_hexEscape (width : Nat) (flags : Flags) : Reads (hexEscape width flags) := by
  have hread : Reads fun start : List Char => if start.head? = some '{' then
      braced flags (start.drop 1) >>= codePoint? false
      else taken flags width start >>= codePoint? (width = 2) :=
    .ite_head (by decide) (.bind (reads_braced flags) (reads_codePoint? _))
      (.bind (reads_taken flags width) (reads_codePoint? _))
  rw [funext (hexEscape_eq width flags)]
  exact hread.skip (skips_spaced flags)

/-- The set of a property, by a name in braces or by one character. -/
def propertySet (negated : Bool) (flags : Flags) : Reader Escape
  | '{' :: rest =>
    braced flags rest >>= fun x => propertySet? x.1 >>= fun y =>
      finished? flags (negated != y.1) y.2 >>= fun s => some (.set s, x.2)
  | '\\' :: _ => none
  | c :: rest =>
    Charset.named? (String.singleton c) >>= fun s => finished? flags negated s >>= fun s =>
      some (.set s, rest)
  | [] => none

/-- A property can only be asked for among all characters. -/
theorem property_eq (negated : Bool) (flags : Flags) (cs : List Char) : property negated flags cs =
    if flags.unicode = true then propertySet negated flags (skipSpaced flags cs) else none := by
  rw [property, propertySet.eq_def]
  cases flags.unicode <;> rfl

/-- The set of a property is read the same. -/
theorem reads_propertySet (negated : Bool) (flags : Flags) : Reads (propertySet negated flags) := by
  have hbraced : Reads fun rest => braced flags rest >>= fun x => propertySet? x.1 >>= fun y =>
      finished? flags (negated != y.1) y.2 >>= fun s => some (Escape.set s, x.2) := by
    refine .bind (reads_braced flags) fun name => ?_
    dsimp only
    exact .lift fun y => .lift fun s => .pure _
  have hone (c : Char) : Reads fun rest => Charset.named? (String.singleton c) >>= fun s =>
      finished? flags negated s >>= fun s => some (Escape.set s, rest) :=
    .lift fun s => .lift fun s => .pure _
  refine .cons rfl fun c => ?_
  by_cases hbrace : c = '{'
  · subst hbrace
    exact hbraced
  by_cases hslash : c = '\\'
  · subst hslash
    exact .none
  · refine (hone c).congr fun cs => ?_
    rw [propertySet]
    · exact fun h => hbrace h
    · exact fun h => hslash h

/-- A property is read the same. -/
theorem reads_property (negated : Bool) (flags : Flags) : Reads (property negated flags) := by
  refine ReadsOr.congr ?_ (property_eq negated flags)
  exact .ite ((reads_propertySet negated flags).skip (skips_spaced flags)) .none

/-- What is left behind a word edge begins with a brace, in front of which nothing can be repeated:
the closing bracket is what comes next. -/
def Stuck (flags : Flags) (r : List Char) : Prop :=
  ∃ b, r = '{' :: b ∧ skipSpaced flags (b ++ closing) = closing

/-- Only behind a word edge the closing bracket can be taken for part of a name. -/
def StuckEscape (flags : Flags) (e : Escape) (r : List Char) : Prop :=
  (∃ p, e = .place p) ∧ Stuck flags r

/-- A letter or a hyphen is no blank, no brace and no comment. -/
theorem not_special_of_isAlpha {c : Char} (h : (c.isAlpha || c == '-') = true) :
    Text.isBlank c = false ∧ c ≠ '}' ∧ c ≠ '#' := by
  have hnat : 65 ≤ c.toNat ∧ c.toNat ≤ 90 ∨ 97 ≤ c.toNat ∧ c.toNat ≤ 122 ∨ c.toNat = 45 := by
    have hcases : ((decide (c.val ≥ 'A'.val ∧ c.val ≤ 'Z'.val) ||
        decide (c.val ≥ 'a'.val) && decide (c.val ≤ 'z'.val)) || c == '-') = true := h
    simp only [Bool.or_eq_true, Bool.and_eq_true, decide_eq_true_eq, beq_iff_eq, ge_iff_le,
      UInt32.le_iff_toNat_le] at hcases
    rcases hcases with (hupper | hlower) | rfl
    · exact .inl hupper
    · exact .inr (.inl hlower)
    · exact .inr (.inr rfl)
  refine ⟨?_, ?_, ?_⟩
  · rw [Text.isBlank, if_pos (by omega)]
    simp only [Bool.or_eq_false_iff, beq_eq_false_iff_ne, decide_eq_false_iff_not, Char.le_def,
      UInt32.le_iff_toNat_le, Bool.and_eq_false_iff]
    constructor
    · rintro rfl
      simp at hnat
    · right
      show ¬ c.toNat ≤ 13
      omega
  · rintro rfl
    simp at hnat
  · rintro rfl
    simp at hnat

/-- The word edge that a name stands for. -/
def namedEdge (flags : Flags) (x : List Char × List Char) : Option (Escape × List Char) :=
  match String.ofList x.1 with
  | "start" => some (.place (.wordStart (wordSet flags)), x.2)
  | "end" => some (.place (.wordEnd (wordSet flags)), x.2)
  | "start-half" => some (.place (.wordStartHalf (wordSet flags)), x.2)
  | "end-half" => some (.place (.wordEndHalf (wordSet flags)), x.2)
  | _ => none

/-- A name in a brace that begins with a letter or a hyphen, and the edge that it names. -/
theorem reads_namedEdge (flags : Flags) {c : Char} (hc : (c.isAlpha || c == '-') = true) :
    Reads fun cs => braced flags (c :: cs) >>= namedEdge flags := by
  obtain ⟨hblank, hbrace, hcomment⟩ := not_special_of_isAlpha hc
  have hcollect : Reads fun cs => braced flags (c :: cs) := by
    refine (reads_collect flags [c]).1.congr fun cs => ?_
    simp [braced, braced.collect, hblank, hbrace, hcomment]
  refine .bind hcollect fun name => ?_
  unfold namedEdge
  dsimp only
  split
  all_goals first
    | exact .pure _
    | exact .none

/-- Without a brace the edge is that of any word. -/
theorem wordEdge_cons_of_ne (flags : Flags) {c : Char} (hc : c ≠ '{') (cs : List Char) :
    wordEdge flags (c :: cs) = some (.place (.wordEdge (wordSet flags)), c :: cs) := by
  rw [wordEdge.eq_def]
  dsimp only
  split
  · next h => exact absurd (List.cons.inj h).1 hc
  · rfl

/-- A word edge is read the same, or the closing bracket is taken for part of its name. -/
theorem reads_wordEdge (flags : Flags) : ReadsOr (StuckEscape flags) (wordEdge flags) := by
  constructor
  · intro cs e rest h
    rw [wordEdge.eq_def] at h
    dsimp only at h
    split at h
    · next tail =>
      split at h
      · cases h
      · next c cs hskip =>
        split at h
        · cases h
          exact List.suffix_rfl
        · next hc =>
          rw [Bool.not_eq_true, Bool.not_eq_false'] at hc
          have htail : c :: cs <:+ tail := hskip ▸ (skips_spaced flags).suffix tail
          have hrest := (reads_namedEdge flags hc).suffix h
          exact hrest.trans (((List.suffix_cons c cs).trans htail).trans (List.suffix_cons _ _))
    · cases h
      exact List.suffix_rfl
  · intro cs e rest h hlen
    cases cs with
    | nil =>
      cases h
      exact ⟨[], rfl, .inl rfl⟩
    | cons d tail =>
      by_cases hd : d = '{'
      · subst hd
        rw [List.cons_append, wordEdge] at h
        rw [wordEdge]
        rcases (skips_spaced flags).closing tail with heq | hnil
        · rw [heq] at h
          cases hskip : skipSpaced flags tail with
          | nil =>
            -- behind the brace stands the closing bracket, which begins no name
            rw [hskip] at heq h
            cases h
            exact ⟨'{' :: tail, rfl, .inr ⟨⟨_, rfl⟩, tail, rfl, heq⟩⟩
          | cons c cs =>
            rw [hskip] at h
            dsimp only [List.cons_append] at h ⊢
            split at h
            · next hc =>
              cases h
              exact ⟨'{' :: tail, rfl, .inl (if_pos hc)⟩
            · next hc =>
              rw [Bool.not_eq_true, Bool.not_eq_false'] at hc
              obtain ⟨r, hr, hread⟩ := (reads_namedEdge flags hc).alone h hlen
              exact ⟨r, hr, .inl ((if_neg (by simp [hc])).trans hread)⟩
        · rw [hnil] at h
          cases h
      · rw [List.cons_append, wordEdge_cons_of_ne flags hd] at h
        cases h
        exact ⟨d :: tail, rfl, .inl (wordEdge_cons_of_ne flags hd tail)⟩

/-- An escape begins with a character that says how it goes on. -/
theorem reads_escape_cons (flags : Flags) (c : Char) :
    ReadsOr (StuckEscape flags) fun rest => escape flags (c :: rest) where
  suffix {cs e rest} h := by
    simp only [escape] at h
    split at h
    all_goals first
      | exact (reads_hexEscape _ flags).suffix h
      | exact (reads_property _ flags).suffix h
      | exact (reads_wordEdge flags).suffix h
      | exact (.const _ : Reads _).suffix h
      | exact (.pure _ : Reads _).suffix h
      | exact (.ite (.pure _) .none : Reads _).suffix h
  closing {cs e rest} h hlen := by
    simp only [escape] at h
    split at h
    all_goals first
      | exact ((reads_hexEscape _ flags).mono nofun).closing h hlen
      | exact ((reads_property _ flags).mono nofun).closing h hlen
      | exact (reads_wordEdge flags).closing h hlen
      | exact (ReadsOr.const _).closing h hlen
      | exact (ReadsOr.pure _).closing h hlen
      | skip
    -- what only stands for itself
    split at h
    · next hc =>
      cases h
      refine ⟨cs, rfl, .inl ?_⟩
      simp only [escape]
      exact if_pos hc
    · cases h

/-- An escape is read the same, or the closing bracket is taken for part of a name. -/
theorem reads_escape (flags : Flags) : ReadsOr (StuckEscape flags) (escape flags) :=
  .cons rfl (reads_escape_cons flags)

end

end Wiring.Pattern
