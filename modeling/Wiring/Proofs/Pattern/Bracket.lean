import Mathlib.Data.List.TakeWhile
import Wiring.Proofs.Pattern.Closing

/-!
# Sets in front of a closing bracket

A set that is open at the end of a text stays open when the closing bracket follows, for neither of
its characters closes a set (`setBody_closing`). So a set that is read in front of the closing
bracket is read from the text alone.
-/

namespace Wiring.Pattern

section
variable {cs rest : List Char} {flags : Flags}

/-- Blanks in front are passed over the same in front of the closing bracket. -/
theorem dropBlanks_append (cs : List Char) :
    (cs ++ closing).dropWhile Text.isBlank = cs.dropWhile Text.isBlank ++ closing := by
  rw [List.dropWhile_append]
  split
  · next h =>
    rw [List.isEmpty_iff.1 h]
    decide
  · rfl

/-! ## Classes -/

/-- The class that is named up to a colon in front of a bracket. -/
def namedClass (negated : Bool) (rest : List Char) : Option ((Bool × Charset) × List Char) :=
  match rest.span (· != ':') with
  | (name, ':' :: ']' :: rest) => (Charset.posix? (String.ofList name)).map fun s =>
    ((negated, s), rest)
  | _ => none

/-- A class has colons around its name, and may be negated. -/
theorem posixClass_eq (cs : List Char) : posixClass cs =
    if cs.head? = some ':' then
      if (cs.drop 1).head? = some '^' then namedClass true (cs.drop 2)
      else namedClass false (cs.drop 1)
    else none := by
  cases cs with
  | nil => rfl
  | cons c cs =>
    by_cases hc : c = ':'
    · subst hc
      cases cs with
      | nil => rfl
      | cons d cs =>
        by_cases hd : d = '^'
        · subst hd
          rfl
        · have hcaret : (List.drop 1 (':' :: d :: cs)).head? ≠ some '^' :=
            fun h => hd (Option.some.inj h)
          rw [List.head?_cons, if_pos rfl, if_neg hcaret, posixClass]
          · rfl
          · exact fun rest h => hd (List.cons.inj h).1
    · simp [posixClass, hc]

/-- Nothing in the closing bracket ends what goes up to some other character. -/
theorem span_append {c : Char} (hc : c ∉ closing) (cs : List Char) :
    (cs ++ closing).span (· != c) = if cs.dropWhile (· != c) = [] then (cs ++ closing, [])
      else (cs.takeWhile (· != c), cs.dropWhile (· != c) ++ closing) := by
  have hbracket : ∀ d ∈ closing, (d != c) = true := by
    intro d hd
    simpa using fun heq : d = c => hc (heq ▸ hd)
  rw [List.span_eq_takeWhile_dropWhile, List.dropWhile_append]
  split_ifs with hempty hdrop hdrop
  · have hcs : ∀ d ∈ cs, (d != c) = true := List.dropWhile_eq_nil_iff.1 hdrop
    rw [List.takeWhile_append_of_pos hcs, List.takeWhile_eq_self_iff.2 hbracket,
      List.dropWhile_eq_nil_iff.2 hbracket]
  · exact absurd (List.isEmpty_iff.1 hempty) hdrop
  · simp [hdrop] at hempty
  · have hlen : (cs.takeWhile (· != c)).length ≠ cs.length := by
      have hcs := congrArg List.length (List.takeWhile_append_dropWhile (p := (· != c)) (l := cs))
      rw [List.length_append] at hcs
      have := List.length_pos_iff.2 hdrop
      omega
    rw [List.takeWhile_append, if_neg hlen]

/-- A class is named the same in front of the closing bracket. -/
theorem namedClass_append (negated : Bool) (cs : List Char) :
    namedClass negated (cs ++ closing) =
      (namedClass negated cs).map fun x => (x.1, x.2 ++ closing) := by
  rw [namedClass, namedClass, span_append (by decide), List.span_eq_takeWhile_dropWhile]
  rcases cs.dropWhile (· != ':') with _ | ⟨c, _ | ⟨e, d⟩⟩
  · simp
  · simp [closing]
  · by_cases hce : c = ':' ∧ e = ']'
    · obtain ⟨rfl, rfl⟩ := hce
      simp [Option.map_map, Function.comp_def]
    · have hother (name d : List Char) : (match (name, c :: e :: d) with
          | (name, ':' :: ']' :: rest) =>
            (Charset.posix? (String.ofList name)).map fun s => ((negated, s), rest)
          | _ => none) = none := by
        split
        · next heq =>
          simp only [Prod.mk.injEq, List.cons.injEq] at heq
          exact absurd ⟨heq.2.1, heq.2.2.1⟩ hce
        · rfl
      rw [if_neg (List.cons_ne_nil _ _), List.cons_append, List.cons_append, hother, hother,
        Option.map_none]

/-- A class is read in front of the closing bracket exactly if it is read without. -/
theorem posixClass_append (cs : List Char) :
    posixClass (cs ++ closing) = (posixClass cs).map fun x => (x.1, x.2 ++ closing) := by
  rw [posixClass_eq, posixClass_eq]
  cases cs with
  | nil => rfl
  | cons c cs =>
    cases cs with
    | nil =>
      by_cases hc : c = ':'
      · subst hc
        exact namedClass_append false []
      · simp [hc]
    | cons d cs =>
      simp only [List.cons_append, List.head?_cons, List.drop_succ_cons, List.drop_zero]
      split_ifs
      · exact namedClass_append true cs
      · exact namedClass_append false (d :: cs)
      · rfl

/-- What the name of a class leaves is the end of the text. -/
theorem suffix_of_namedClass {negated : Bool} {x : Bool × Charset}
    (h : namedClass negated cs = some (x, rest)) : rest <:+ cs := by
  rw [namedClass, List.span_eq_takeWhile_dropWhile] at h
  split at h
  · next name tail heq =>
    obtain ⟨s, -, heq'⟩ := Option.map_eq_some_iff.1 h
    cases heq'
    have hdrop : cs.dropWhile (· != ':') <:+ cs := List.dropWhile_suffix _
    rw [show cs.dropWhile (· != ':') = ':' :: ']' :: rest from (Prod.ext_iff.1 heq).2] at hdrop
    exact ((List.suffix_cons _ _).trans (List.suffix_cons _ _)).trans hdrop
  · cases h

/-- What a class leaves is the end of the text. -/
theorem suffix_of_posixClass {x : Bool × Charset} (h : posixClass cs = some (x, rest)) :
    rest <:+ cs := by
  rw [posixClass_eq] at h
  split_ifs at h
  · exact (suffix_of_namedClass h).trans (List.drop_suffix _ _)
  · exact (suffix_of_namedClass h).trans (List.drop_suffix _ _)

/-! ## Items and ranges -/

/-- A character that has to be written with care is read the same. -/
theorem reads_checked (flags : Flags) (c : Char) : Reads (setItem.checked flags c) :=
  .ite (.pure _) .none

/-- What an escape is in a set. -/
def escapedItem (flags : Flags) : Escape × List Char → Option (SetItem × List Char)
  | (.char c _, rest) => setItem.checked flags c rest
  | (.set s, rest) => some (.set s, rest)
  | (.place _, _) => none

/-- An item that begins with a character is read the same. -/
theorem reads_setItem_cons (flags : Flags) (c : Char) :
    Reads fun cs => setItem flags (c :: cs) := by
  by_cases hslash : c = '\\'
  · subst hslash
    have hread : Reads fun rest => escape flags rest >>= escapedItem flags := by
      refine .bind_of_short (reads_escape flags) (fun e => ?_) ?_
      · cases e with
        | char c _ => exact reads_checked flags c
        | set s => exact .pure _
        | place p => exact .none
      · rintro e r a rest ⟨⟨p, rfl⟩, -⟩ h
        cases h
    exact hread
  · refine (reads_checked flags c).congr fun cs => ?_
    rw [setItem.eq_def]
    split
    · next h => cases h
    · next h => exact absurd (List.cons.inj h).1 hslash
    · next h =>
      cases h
      rfl

/-- An item is read the same. -/
theorem reads_setItem (flags : Flags) : Reads (setItem flags) :=
  .cons rfl (reads_setItem_cons flags)

/-- Whether a hyphen starts a range is not told by the closing bracket. -/
theorem afterHyphen_append {d : Char} (hbracket : d ≠ ')') (hcomment : d ≠ '#')
    (hblank : Text.isBlank d = false) :
    afterHyphen flags (cs ++ closing) = some d ↔ afterHyphen flags cs = some d := by
  have hhead : (cs ++ closing).head? = some d ↔ cs.head? = some d := by
    cases cs with
    | nil => simp [closing, hbracket.symm]
    | cons c cs => rfl
  rw [afterHyphen, afterHyphen]
  split
  · exact hhead
  · have hfirst : cs.head? = some d → ∃ rest, cs.dropWhile Text.isBlank = d :: rest := by
      intro h
      cases cs with
      | nil => cases h
      | cons c cs =>
        cases h
        exact ⟨cs, by rw [List.dropWhile_cons, hblank, if_neg Bool.false_ne_true]⟩
    rw [dropBlanks_append]
    cases hdrop : cs.dropWhile Text.isBlank with
    | nil =>
      have hno : cs.head? ≠ some d := fun h => by
        obtain ⟨rest, hrest⟩ := hfirst h
        cases hdrop.symm.trans hrest
      simp [closing, hbracket.symm, hno]
    | cons c rest =>
      by_cases hc : c = '#'
      · subst hc
        have hno : cs.head? ≠ some d := fun h => by
          obtain ⟨rest, hrest⟩ := hfirst h
          exact hcomment (List.cons.inj (hdrop.symm.trans hrest)).1.symm
        simp only [List.cons_append, dropBlanks_append]
        cases rest.dropWhile Text.isBlank with
        | nil => simp [closing, hbracket.symm, hno]
        | cons e rest => simp
      · simp

/-- The set that an item is. -/
def SetItem.charset : SetItem → Charset
  | .char c => .single c
  | .set s => s

/-- What follows on the first item of a range, if it is one. -/
def rangeEnd (flags : Flags) (first : SetItem) : List Char → Option (Charset × List Char)
  | [] => none
  | '-' :: after =>
    if afterHyphen flags after = some ']' ∨ afterHyphen flags after = some '-' then
      some (first.charset, '-' :: after)
    else
      setItem flags (skipSpaced flags after) >>= fun x => match first, x with
        | .char a, (.char b, rest) => if a ≤ b then some (.range a b, rest) else none
        | _, _ => none
  | rest => some (first.charset, rest)

/-- A range is an item and what may follow on it. -/
theorem setRange_eq (flags : Flags) (cs : List Char) : setRange flags cs =
    setItem flags cs >>= fun x => rangeEnd flags x.1 (skipSpaced flags x.2) := by
  rw [setRange]
  congr 1

/-- The second item of a range. -/
theorem reads_rangeSecond (flags : Flags) (first : SetItem) :
    Reads fun after => setItem flags (skipSpaced flags after) >>= fun x => match first, x with
      | .char a, (.char b, rest) => if a ≤ b then some (Charset.range a b, rest) else none
      | _, _ => none := by
  refine .bind ((reads_setItem flags).skip (skips_spaced flags)) fun item => ?_
  cases first with
  | char a =>
    cases item with
    | char b => exact .ite (.pure _) .none
    | set s => exact .none
  | set s => exact .none

/-- Without a hyphen the first item stands alone. -/
theorem rangeEnd_cons_of_ne (flags : Flags) (first : SetItem) {c : Char} (hc : c ≠ '-')
    (cs : List Char) : rangeEnd flags first (c :: cs) = some (first.charset, c :: cs) := by
  rw [rangeEnd.eq_def]
  split
  · next h => cases h
  · next h => exact absurd (List.cons.inj h).1 hc
  · rfl

/-- What follows on the first item of a range is read the same, or the text is at its end. -/
theorem reads_rangeEnd (flags : Flags) (first : SetItem) :
    ReadsOr (fun _ r => r = []) (rangeEnd flags first) := by
  constructor
  · intro cs s rest h
    rw [rangeEnd.eq_def] at h
    split at h
    · cases h
    · split at h
      · cases h
        exact List.suffix_rfl
      · exact ((reads_rangeSecond flags first).suffix h).trans (List.suffix_cons _ _)
    · cases h
      exact List.suffix_rfl
  · intro cs s rest h hlen
    cases cs with
    | nil =>
      cases h
      exact ⟨[], rfl, .inr rfl⟩
    | cons c cs =>
      by_cases hc : c = '-'
      · subst hc
        rw [List.cons_append, rangeEnd] at h
        rw [rangeEnd]
        simp only [afterHyphen_append (show ']' ≠ ')' by decide) (by decide) (by decide),
          afterHyphen_append (show '-' ≠ ')' by decide) (by decide) (by decide)] at h
        split at h
        · next hstop =>
          cases h
          exact ⟨'-' :: cs, rfl, .inl (if_pos hstop)⟩
        · next hstop =>
          obtain ⟨r, hr, halone⟩ := (reads_rangeSecond flags first).alone h hlen
          exact ⟨r, hr, .inl ((if_neg hstop).trans halone)⟩
      · rw [List.cons_append, rangeEnd_cons_of_ne flags first hc] at h
        cases h
        exact ⟨c :: cs, rfl, .inl (rangeEnd_cons_of_ne flags first hc cs)⟩

/-- A range or an item is read the same without the closing bracket, unless that comes next. -/
theorem reads_setRange (flags : Flags) (c : Char) :
    ReadsOr (fun _ r => r = []) fun cs => setRange flags (c :: cs) := by
  refine ReadsOr.congr ?_ fun cs => setRange_eq flags (c :: cs)
  exact .bind (reads_setItem_cons flags c) fun first =>
    (reads_rangeEnd flags first).skip (skips_spaced flags)

/-! ## The start of a set -/

/-- What leading hyphens leave is the end of the text. -/
theorem suffix_leadingHyphens (flags : Flags) (n : Nat) (b : SetBody) (cs : List Char) :
    (leadingHyphens flags n b cs).2 <:+ cs := by
  induction n generalizing b cs with
  | zero => exact List.suffix_rfl
  | succ n ih =>
    rw [leadingHyphens.eq_def]
    dsimp only
    split
    · exact ((ih _ _).trans ((skips_spaced flags).suffix _)).trans (List.suffix_cons _ _)
    · exact List.suffix_rfl

/-- Anything but a hyphen ends the leading hyphens. -/
theorem leadingHyphens_cons_of_ne (flags : Flags) {c : Char} (hc : c ≠ '-') (n : Nat) (b : SetBody)
    (cs : List Char) : leadingHyphens flags n b (c :: cs) = (b, c :: cs) := by
  cases n with
  | zero => rfl
  | succ n =>
    rw [leadingHyphens.eq_def]
    dsimp only
    split
    · next h => exact absurd (List.cons.inj h).1 hc
    · rfl

/-- Leading hyphens are taken the same in front of the closing bracket. -/
theorem leadingHyphens_closing {n m : Nat} {b b' : SetBody} (hn : cs.length ≤ n)
    (hm : cs.length ≤ m) (h : leadingHyphens flags n b (cs ++ closing) = (b', rest))
    (hlen : 2 ≤ rest.length) :
    ∃ r, rest = r ++ closing ∧ leadingHyphens flags m b cs = (b', r) := by
  induction n generalizing m b cs with
  | zero =>
    obtain rfl := List.eq_nil_of_length_eq_zero (Nat.le_zero.1 hn)
    cases h
    exact ⟨[], rfl, by cases m <;> rfl⟩
  | succ n ih =>
    cases cs with
    | nil =>
      cases h
      exact ⟨[], rfl, by cases m <;> rfl⟩
    | cons c cs =>
      by_cases hc : c = '-'
      · subst hc
        obtain ⟨m, rfl⟩ : ∃ k, m = k + 1 := ⟨m - 1, by simp at hm; omega⟩
        rw [List.cons_append, leadingHyphens] at h
        rw [leadingHyphens]
        rcases (skips_spaced flags).closing cs with heq | hnil
        · have hle := ((skips_spaced flags).suffix cs).length_le
          rw [List.length_cons] at hn hm
          exact ih (by omega) (by omega) (heq ▸ h)
        · rw [hnil] at h
          have hle := (suffix_leadingHyphens flags n (b.add (.single '-') 0) []).length_le
          rw [h] at hle
          exact absurd (Nat.le_trans hlen hle) (by simp)
      · rw [List.cons_append, leadingHyphens_cons_of_ne flags hc] at h
        cases h
        exact ⟨c :: cs, rfl, leadingHyphens_cons_of_ne flags hc m _ cs⟩

/-- Leading hyphens are read the same. -/
theorem reads_leadingHyphens (flags : Flags) (b : SetBody) :
    Reads fun cs => some (leadingHyphens flags cs.length b cs) where
  suffix {cs b' rest} h := by
    have hsuffix := suffix_leadingHyphens flags cs.length b cs
    rwa [Option.some.inj h] at hsuffix
  closing {cs b' rest} h hlen := by
    obtain ⟨r, hr, halone⟩ :=
      leadingHyphens_closing (by simp) (Nat.le_refl _) (Option.some.inj h) hlen
    exact ⟨r, hr, .inl (congrArg some halone)⟩

/-- Whether a set is negated. -/
def caretStart (flags : Flags) : Reader Bool :=
  fun cs => some <| match skipSpaced flags cs with
    | '^' :: rest => (true, skipSpaced flags rest)
    | rest => (false, rest)

/-- A bracket that closes no set because the set has just begun. -/
def bracketStart (flags : Flags) (negated : Bool) (b : SetBody) : Reader (Bool × SetBody) :=
  fun cs =>
    let (negated, b, rest) := match cs with
      | ']' :: rest =>
        if b.items.isEmpty then (negated, b.add (.single ']') 0, skipSpaced flags rest)
        else (negated, b, cs)
      | cs => (negated, b, cs)
    some ((negated, b), rest)

/-- The start of a set, as a reader. -/
def opened (flags : Flags) : Reader (Bool × SetBody) :=
  fun cs =>
    let (negated, b, rest) := openSet flags cs
    some ((negated, b), rest)

/-- A set begins with a caret, hyphens and a bracket, each of which may be left out. -/
theorem opened_eq (flags : Flags) (cs : List Char) : opened flags cs =
    caretStart flags cs >>= fun x => some (leadingHyphens flags x.2.length {} x.2) >>= fun y =>
      bracketStart flags x.1 y.1 y.2 :=
  rfl

/-- The caret of a set is read the same. -/
theorem reads_caretStart (flags : Flags) : Reads (caretStart flags) := by
  have hskip : Reads fun cs => some (true, skipSpaced flags cs) :=
    ReadsOr.skip (.pure true) (skips_spaced flags)
  have hcaret : Reads fun cs : List Char => if cs.head? = some '^' then
      some (true, skipSpaced flags (cs.drop 1)) else some (false, cs) :=
    .ite_head (by decide) hskip (.pure false)
  refine (hcaret.skip (skips_spaced flags)).congr fun cs => ?_
  rw [caretStart]
  cases skipSpaced flags cs with
  | nil => rfl
  | cons c s =>
    by_cases hc : c = '^'
    · subst hc
      rfl
    · simp [hc]

/-- A bracket at the start of a set is read the same. -/
theorem reads_bracketStart (flags : Flags) (negated : Bool) (b : SetBody) :
    Reads (bracketStart flags negated b) := by
  have hadd : Reads fun cs => some ((negated, b.add (.single ']') 0), skipSpaced flags cs) :=
    ReadsOr.skip (.pure _) (skips_spaced flags)
  have hread : Reads fun cs => if b.items.isEmpty then
      if cs.head? = some ']' then
        some ((negated, b.add (.single ']') 0), skipSpaced flags (cs.drop 1))
      else some ((negated, b), cs)
      else some ((negated, b), cs) :=
    .ite (.ite_head (by decide) hadd (.pure _)) (.pure _)
  refine hread.congr fun cs => ?_
  cases cs with
  | nil => simp [bracketStart]
  | cons c cs =>
    by_cases hc : c = ']'
    · subst hc
      simp only [bracketStart, List.head?_cons, if_true, List.drop_one, List.tail_cons]
      split <;> rfl
    · simp [bracketStart, hc]

/-- The start of a set is read the same. -/
theorem reads_opened (flags : Flags) : Reads (opened flags) := by
  rw [funext (opened_eq flags)]
  refine .bind (reads_caretStart flags) fun negated => ?_
  dsimp only
  refine .bind (reads_leadingHyphens flags {}) fun b => ?_
  exact reads_bracketStart flags negated b

/-! ## Sets -/

/-- What the reader of a set finds next. -/
inductive SetStep where
  /-- It goes on in the same set. -/
  | on (b : SetBody)
  /-- A set opens in the set. -/
  | enter (negated : Bool) (start : SetBody)

namespace SetBody

/-- An item or a range. -/
def ranged (flags : Flags) (b : SetBody) : Reader SetStep :=
  fun cs => (setRange flags cs).map fun x => (.on (b.add x.1 0), x.2)

/-- An operator, which is a character written twice. Written once it is an item. -/
def operated (flags : Flags) (b : SetBody) (op : SetOp) (c : Char) : Reader SetStep :=
  fun cs =>
    if cs.head? = some c then some (.on (b.operate flags op), cs.drop 1)
    else b.ranged flags (c :: cs)

/-- A class, or the start of a set. -/
def nested (flags : Flags) (b : SetBody) : Reader SetStep :=
  fun cs => match posixClass cs with
    | some (x, rest) => (finished? flags x.1 x.2).map fun s => (.on (b.add s 0), rest)
    | none => (opened flags cs).map fun x => (.enter x.1.1 x.1.2, x.2)

/-- What a character that does not close the set leads to, with what follows on it. -/
def step (flags : Flags) (b : SetBody) (c : Char) : Reader SetStep :=
  match c with
  | '&' => b.operated flags .inter '&'
  | '-' => b.operated flags .diff '-'
  | '~' => b.operated flags .symm '~'
  | '[' => b.nested flags
  | c => fun cs => b.ranged flags (c :: cs)

/-- The set from a step on. -/
def follow (flags : Flags) (b : SetBody) (fuel : Nat) :
    SetStep × List Char → Option (SetBody × List Char)
  | (.on b, rest) => setBody flags fuel b rest
  | (.enter negated start, rest) => setBody flags fuel start rest >>= fun x =>
    finished? flags negated (x.1.close flags).1 >>= fun s =>
      setBody flags fuel (b.add s ((x.1.close flags).2 + 1)) x.2

end SetBody

section
variable {b b' : SetBody} {c : Char} {n m : Nat}

/-- A set that is not closed is none. -/
theorem setBody_nil (hs : skipSpaced flags cs = []) : setBody flags (n + 1) b cs = none := by
  rw [setBody, hs]

/-- A set ends with its closing bracket. -/
theorem setBody_close (hs : skipSpaced flags cs = ']' :: rest) :
    setBody flags (n + 1) b cs = some (b, rest) := by
  rw [setBody, hs]
  rfl

/-- Reading a set goes on with a step, unless the text or the set ends. -/
theorem setBody_step (hs : skipSpaced flags cs = c :: rest) (hc : c ≠ ']') :
    setBody flags (n + 1) b cs = b.step flags c rest >>= b.follow flags n := by
  have hranged (c : Char) : b.ranged flags (c :: rest) >>= b.follow flags n =
      setRange flags (c :: rest) >>= fun x => setBody flags n (b.add x.1 0) x.2 := by
    rw [SetBody.ranged]
    cases setRange flags (c :: rest) <;> rfl
  rw [setBody.eq_def]
  dsimp only
  rw [hs]
  clear hs
  split
  · next h => cases h
  · next h => exact absurd (List.cons.inj h).1 hc
  · next h => cases h; rfl
  · next h => cases h; rfl
  · next h => cases h; rfl
  · next h =>
    cases h
    simp only [SetBody.step, SetBody.nested]
    rcases posixClass rest with _ | ⟨⟨negated, s⟩, after⟩
    · rfl
    · simp only
      cases finished? flags negated s <;> rfl
  · next hand hhyphen htilde hopen =>
    rw [SetBody.step.eq_def]
    split
    · rw [SetBody.operated, if_neg (head?_ne fun tail h => hand tail (congrArg _ h)), hranged]
    · rw [SetBody.operated, if_neg (head?_ne fun tail h => hhyphen tail (congrArg _ h)), hranged]
    · rw [SetBody.operated, if_neg (head?_ne fun tail h => htilde tail (congrArg _ h)), hranged]
    · exact absurd rfl (hopen rest)
    · exact (hranged c).symm

/-- An item or a range is read the same, or the text is at its end. -/
theorem reads_ranged (flags : Flags) (b : SetBody) (c : Char) :
    ReadsOr (fun _ r => r = []) fun cs => b.ranged flags (c :: cs) :=
  .map (reads_setRange flags c) (fun s => SetStep.on (b.add s 0)) fun _ _ => id

/-- A class or the start of a set is read the same. -/
theorem reads_nested (flags : Flags) (b : SetBody) :
    Reads (b.nested flags) := by
  have hopened : Reads fun cs => (opened flags cs).map fun x => (SetStep.enter x.1.1 x.1.2, x.2) :=
    .map (reads_opened flags) (fun x => SetStep.enter x.1 x.2) fun _ _ => id
  constructor
  · intro cs next rest h
    rw [SetBody.nested] at h
    split at h
    · next hclass =>
      obtain ⟨s, -, heq⟩ := Option.map_eq_some_iff.1 h
      cases heq
      exact suffix_of_posixClass hclass
    · exact hopened.suffix h
  · intro cs next rest h hlen
    rw [SetBody.nested, posixClass_append] at h
    rw [SetBody.nested]
    cases hclass : posixClass cs with
    | some x =>
      rw [hclass] at h
      obtain ⟨s, hs, heq⟩ := Option.map_eq_some_iff.1 h
      cases heq
      exact ⟨x.2, rfl, .inl (Option.map_eq_some_iff.2 ⟨s, hs, rfl⟩)⟩
    | none =>
      rw [hclass] at h
      exact hopened.closing h hlen

/-- What a character leads to in a set is read the same, or the text is at its end. -/
theorem reads_setStep (flags : Flags) (b : SetBody) (c : Char) :
    ReadsOr (fun _ r => r = []) (b.step flags c) := by
  unfold SetBody.step
  split
  · exact .ite_head (by decide) (.pure _) (reads_ranged flags b '&')
  · exact .ite_head (by decide) (.pure _) (reads_ranged flags b '-')
  · exact .ite_head (by decide) (.pure _) (reads_ranged flags b '~')
  · exact (reads_nested flags b).mono fun _ _ => False.elim
  · exact reads_ranged flags b c

/-- What is read of a set ends with a bracket. -/
theorem suffix_of_setFollow {next : SetStep}
    (hread : ∀ {b b' cs rest}, setBody flags n b cs = some (b', rest) → ']' :: rest <:+ cs)
    (h : b.follow flags n (next, cs) = some (b', rest)) : ']' :: rest <:+ cs := by
  cases next with
  | on b => exact hread h
  | enter negated start =>
    obtain ⟨⟨inner, after⟩, hinner, h⟩ := Option.bind_eq_some_iff.1 h
    obtain ⟨s, -, h⟩ := Option.bind_eq_some_iff.1 h
    exact (hread h).trans ((List.suffix_cons _ _).trans (hread hinner))

/-- What a set leaves is the end of the text, behind a bracket. -/
theorem suffix_of_setBody (h : setBody flags n b cs = some (b', rest)) : ']' :: rest <:+ cs := by
  induction n generalizing b b' cs rest with
  | zero => cases h
  | succ n ih =>
    have hskip := (skips_spaced flags).suffix cs
    cases hs : skipSpaced flags cs with
    | nil =>
      rw [setBody_nil hs] at h
      cases h
    | cons c tail =>
      rw [hs] at hskip
      by_cases hc : c = ']'
      · subst hc
        rw [setBody_close hs] at h
        cases h
        exact hskip
      · rw [setBody_step hs hc] at h
        obtain ⟨⟨next, after⟩, hnext, h⟩ := Option.bind_eq_some_iff.1 h
        have hafter := ((reads_setStep flags b c).suffix hnext).trans (List.suffix_cons c tail)
        exact (suffix_of_setFollow ih h).trans (hafter.trans hskip)

/-- What is left when a set has been read is less than what it was read from. -/
theorem two_le_of_setFollow {next : SetStep} (h : b.follow flags n (next, cs) = some (b', rest))
    (hlen : 2 ≤ rest.length) : 2 ≤ cs.length :=
  Nat.le_trans hlen (Nat.le_of_succ_le (suffix_of_setFollow suffix_of_setBody h).length_le)

/-- The closing bracket closes no set. -/
theorem setFollow_closing (next : SetStep) : b.follow flags n (next, closing) = none := by
  by_contra hne
  obtain ⟨⟨b', rest⟩, hread⟩ := Option.ne_none_iff_exists'.1 hne
  have hmem : ']' ∈ closing := (suffix_of_setFollow suffix_of_setBody hread).subset (.head _)
  exact absurd hmem (by decide)

/-- What follows on a step in front of the closing bracket is read from the text alone, if whatever
set is read for it is. -/
theorem setFollow_append_closing {next : SetStep}
    (hread : ∀ {m b b' cs rest}, setBody flags n b (cs ++ closing) = some (b', rest) →
      2 ≤ rest.length → cs.length < m →
        ∃ r, rest = r ++ closing ∧ setBody flags m b cs = some (b', r))
    (h : b.follow flags n (next, cs ++ closing) = some (b', rest)) (hlen : 2 ≤ rest.length)
    (hm : cs.length < m) :
    ∃ r, rest = r ++ closing ∧ b.follow flags m (next, cs) = some (b', r) := by
  cases next with
  | on b => exact hread h hlen hm
  | enter negated start =>
    obtain ⟨⟨inner, behind⟩, hinner, h⟩ := Option.bind_eq_some_iff.1 h
    obtain ⟨s, hset, h⟩ := Option.bind_eq_some_iff.1 h
    have hbehind : 2 ≤ behind.length :=
      Nat.le_trans hlen (Nat.le_of_succ_le (suffix_of_setBody h).length_le)
    obtain ⟨r₁, rfl, hinner'⟩ := hread hinner hbehind hm
    have hr₁ := (suffix_of_setBody hinner').length_le
    rw [List.length_cons] at hr₁
    obtain ⟨r, hr, hbehind'⟩ := hread h hlen (show r₁.length < m by omega)
    exact ⟨r, hr, Option.bind_eq_some_iff.2 ⟨_, hinner',
      Option.bind_eq_some_iff.2 ⟨s, hset, hbehind'⟩⟩⟩

/-- A set that is read in front of the closing bracket is read from the text alone, with any number
of calls that is above its length. -/
theorem setBody_closing (h : setBody flags n b (cs ++ closing) = some (b', rest))
    (hlen : 2 ≤ rest.length) (hm : cs.length < m) :
    ∃ r, rest = r ++ closing ∧ setBody flags m b cs = some (b', r) := by
  induction n generalizing m b b' cs rest with
  | zero => cases h
  | succ n ih =>
    obtain ⟨m, rfl⟩ : ∃ k, m = k + 1 := ⟨m - 1, by omega⟩
    have hle := ((skips_spaced flags).suffix cs).length_le
    rcases (skips_spaced flags).closing cs with heq | hnil
    · cases hs : skipSpaced flags cs with
      | nil =>
        -- the text ends, and the closing bracket would be the next item
        rw [hs] at heq
        rw [setBody_step heq (by decide)] at h
        obtain ⟨⟨next, after⟩, hnext, h⟩ := Option.bind_eq_some_iff.1 h
        have hafter := ((reads_setStep flags b ')').suffix hnext).length_le
        exact absurd (Nat.le_trans (two_le_of_setFollow h hlen) hafter) (by decide)
      | cons c tail =>
        rw [hs] at heq hle
        rw [List.length_cons] at hle
        by_cases hc : c = ']'
        · subst hc
          rw [setBody_close heq] at h
          cases h
          exact ⟨tail, rfl, setBody_close hs⟩
        rw [setBody_step heq hc] at h
        rw [setBody_step hs hc]
        obtain ⟨⟨next, after⟩, hnext, h⟩ := Option.bind_eq_some_iff.1 h
        obtain ⟨a, rfl, halone | rfl⟩ :=
          (reads_setStep flags b c).closing hnext (two_le_of_setFollow h hlen)
        · have ha := ((reads_setStep flags b c).suffix halone).length_le
          obtain ⟨r, hr, hfollow⟩ :=
            setFollow_append_closing ih h hlen (show a.length < m by omega)
          exact ⟨r, hr, Option.bind_eq_some_iff.2 ⟨_, halone, hfollow⟩⟩
        · -- the item was the last of the text
          rw [List.nil_append, setFollow_closing] at h
          cases h
    · rw [setBody_nil hnil] at h
      cases h

end

/-- The body of a set is read the same. -/
theorem reads_setBody (flags : Flags) (b : SetBody) :
    Reads fun cs => setBody flags (cs.length + 1) b cs where
  suffix h := (List.suffix_cons _ _).trans (suffix_of_setBody h)
  closing h hlen := by
    obtain ⟨r, hr, halone⟩ := setBody_closing h hlen (Nat.lt_succ_self _)
    exact ⟨r, hr, .inl halone⟩

/-- A set in brackets is read the same. -/
theorem reads_bracketed (flags : Flags) : Reads (bracketed flags) := by
  have hread : Reads fun cs => opened flags cs >>= fun x =>
      setBody flags (x.2.length + 1) x.1.2 x.2 >>= fun y =>
        finished? flags x.1.1 (y.1.close flags).1 >>= fun s =>
          some ((⟨ofCharset s, (y.1.close flags).2 + 1⟩ : Piece), y.2) := by
    refine .bind (reads_opened flags) fun start => ?_
    dsimp only
    refine .bind (reads_setBody flags start.2) fun b => ?_
    dsimp only
    exact .lift fun s => .pure _
  exact hread

end

end Wiring.Pattern
