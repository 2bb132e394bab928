import Wiring.Proofs.Pattern.Group
import Wiring.Proofs.Pattern.Spans
import Wiring.Route.Path

/-!
# Anchored patterns

Anchoring puts the text of a pattern into a group between the start and the end of a text. If the
result is a pattern, the text itself was read either to its end, and then it has to match all of a
text (`isMatch_between`), or up to a bracket that closes the group around it (`of_anchored`). What
the reader does at a character is told apart once, as a step (`Progress.step`).
-/

namespace Wiring.Pattern

/-! ## Steps of the reader -/

/-- Where the reader of alternatives stands. -/
structure Progress where
  ctx : Context
  items : List Item
  done : List Piece

/-- What the reader of alternatives finds next. -/
inductive Step where
  /-- It goes on in the same group. -/
  | on (s : Progress)
  /-- A group opens. -/
  | enter (number? : Option Nat) (inner : Context)

namespace Progress

/-- The reader after one more piece. -/
def push (s : Progress) (p : Piece) : Step :=
  .on { s with items := .piece p :: s.items }

/-- The reader when the last item has been repeated. -/
def repeatLast? (s : Progress) (least : Nat) (most? : Option Nat) : Option Step :=
  (repeatLast least most? s.items).map fun items => .on { s with items }

/-- What an escape adds. -/
def escaped? (s : Progress) : Escape → Option Step
  | .char c isByte => (literal? s.ctx.flags c isByte).map fun p => s.push ⟨p, 0⟩
  | .set c => some (s.push ⟨ofCharset c, 0⟩)
  | .place p => some (s.push ⟨.place p, 0⟩)

/-- What the start of a group leads to. -/
def started (s : Progress) : GroupStart → Step
  | .switches f => .on { s with ctx := { s.ctx with flags := f }, items := .switches :: s.items }
  | .opened number? inner => .enter number? inner

/-- What a character that closes no group leads to, with what follows on it. -/
def step (s : Progress) (c : Char) : Reader Step :=
  match c with
  | '|' => fun rest =>
    some (.on { s with items := [], done := sequenceOf s.items.reverse :: s.done }, rest)
  | '(' => fun rest => (groupStart s.ctx rest).map fun x => (s.started x.1, x.2)
  | '[' => fun rest => (bracketed s.ctx.flags rest).map fun x => (s.push x.1, x.2)
  | '?' => fun rest => (s.repeatLast? 0 (some 1)).map (·, skipLazy rest)
  | '*' => fun rest => (s.repeatLast? 0 none).map (·, skipLazy rest)
  | '+' => fun rest => (s.repeatLast? 1 none).map (·, skipLazy rest)
  | '{' => fun rest => bounds s.ctx.flags rest >>= fun x =>
    (s.repeatLast? x.1.1 x.1.2).map (·, skipLazy (skipSpaced s.ctx.flags x.2))
  | '.' => fun rest => ((dot? s.ctx.flags).map fun p => s.push ⟨p, 0⟩).map (·, rest)
  | '^' => fun rest => some (s.push ⟨.place (caret s.ctx.flags), 0⟩, rest)
  | '$' => fun rest => some (s.push ⟨.place (dollar s.ctx.flags), 0⟩, rest)
  | '\\' => fun rest => escape s.ctx.flags rest >>= fun x => (s.escaped? x.1).map (·, x.2)
  | c => fun rest => ((literal? s.ctx.flags c false).map fun p => s.push ⟨p, 0⟩).map (·, rest)

/-- All that was read up to the end of the group. -/
def finish (s : Progress) : Piece :=
  combined choice (sequenceOf s.items.reverse :: s.done).reverse

/-- The reader behind a group. -/
def leave (s : Progress) (number? : Option Nat) (p : Piece) (inner : Context) : Progress :=
  let pattern := match number? with
    | some n => group n p.pattern
    | none => p.pattern
  { s with
    ctx := { inner with flags := s.ctx.flags }
    items := .piece ⟨pattern, p.depth + 1⟩ :: s.items }

/-- The start of a group. -/
def start (ctx : Context) : Progress :=
  { ctx, items := [], done := [] }

/-- The alternatives from some point on. -/
abbrev read (s : Progress) (fuel : Nat) (cs : List Char) : Option (Piece × Context × List Char) :=
  alternatives fuel s.ctx s.items s.done cs

/-- The alternatives from a step on. -/
def follow (s : Progress) (fuel : Nat) : Step × List Char → Option (Piece × Context × List Char)
  | (.on s, rest) => s.read fuel rest
  | (.enter number? inner, rest) => (start inner).read fuel rest >>= fun x =>
    if x.2.2.head? = some ')' then (s.leave number? x.1 x.2.1).read fuel (x.2.2.drop 1) else none

end Progress

section
variable {cs rest : List Char} {ctx : Context} {s : Progress} {p : Piece} {n m : Nat}

/-- The reader finishes at the end of the text. -/
theorem Progress.read_nil (hs : skipSpaced s.ctx.flags cs = []) :
    s.read (n + 1) cs = some (s.finish, s.ctx, []) := by
  rw [read, alternatives, hs]
  rfl

/-- The reader finishes in front of a closing bracket. -/
theorem Progress.read_close (hs : skipSpaced s.ctx.flags cs = ')' :: rest) :
    s.read (n + 1) cs = some (s.finish, s.ctx, ')' :: rest) := by
  rw [read, alternatives, hs]
  rfl

/-- Reading goes on with a step, unless the text or the group ends. -/
theorem Progress.read_step {c : Char} (hs : skipSpaced s.ctx.flags cs = c :: rest) (hc : c ≠ ')') :
    s.read (n + 1) cs = s.step c rest >>= s.follow n := by
  rw [read, alternatives.eq_def]
  dsimp only
  rw [hs]
  clear hs
  -- one case for each character that a step begins with
  split
  · next h => cases h
  · next h => exact absurd (List.cons.inj h).1 hc
  · next h => cases h; rfl
  · next h =>
    cases h
    simp only [step]
    rcases groupStart s.ctx rest with _ | ⟨f | ⟨number?, inner⟩, after⟩
    · rfl
    · rfl
    · simp only [started, follow, Option.map_some, Option.bind_eq_bind, Option.bind_some]
      congr 1
      funext ⟨p, inner', behind⟩
      rcases behind with _ | ⟨d, behind⟩
      · rfl
      by_cases hd : d = ')'
      · subst hd
        rfl
      · simp [hd]
  · next h =>
    cases h
    simp only [step]
    cases bracketed s.ctx.flags rest <;> rfl
  · next h =>
    cases h
    simp only [step, repeatLast?]
    cases repeatLast 0 (some 1) s.items <;> rfl
  · next h =>
    cases h
    simp only [step, repeatLast?]
    cases repeatLast 0 none s.items <;> rfl
  · next h =>
    cases h
    simp only [step, repeatLast?]
    cases repeatLast 1 none s.items <;> rfl
  · next h =>
    cases h
    simp only [step]
    rcases bounds s.ctx.flags rest with _ | ⟨⟨least, most?⟩, after⟩
    · rfl
    · simp only [repeatLast?, Option.bind_eq_bind, Option.bind_some]
      cases repeatLast least most? s.items <;> rfl
  · next h =>
    cases h
    simp only [step]
    cases dot? s.ctx.flags <;> rfl
  · next h => cases h; rfl
  · next h => cases h; rfl
  · next h =>
    cases h
    simp only [step]
    rcases escape s.ctx.flags rest with _ | ⟨⟨d, isByte⟩ | d | d, after⟩
    · rfl
    · simp only [escaped?, Option.bind_eq_bind, Option.bind_some]
      cases literal? s.ctx.flags d isByte <;> rfl
    · rfl
    · rfl
  · next h =>
    cases h
    rw [step.eq_def]
    split
    all_goals first
      | contradiction
      | skip
    cases literal? s.ctx.flags c false <;> rfl

/-- The reader goes on in front of a brace that no number follows on. -/
def StuckStep (s : Progress) (next : Step) (r : List Char) : Prop :=
  (∃ s', next = .on s' ∧ s'.ctx = s.ctx) ∧ Stuck s.ctx.flags r

/-- A step is read the same in front of the closing bracket, or is stuck behind a word edge. -/
theorem reads_step (s : Progress) (c : Char) : ReadsOr (StuckStep s) (s.step c) := by
  unfold Progress.step
  split
  · exact .pure _
  · exact .map (reads_groupStart s.ctx) s.started fun _ _ => False.elim
  · exact .map (reads_bracketed s.ctx.flags) s.push fun _ _ => False.elim
  · exact .skip (.const _) skips_skipLazy
  · exact .skip (.const _) skips_skipLazy
  · exact .skip (.const _) skips_skipLazy
  · refine .bind (reads_bounds s.ctx.flags) fun b => ?_
    dsimp only
    exact .skip (.const _) ((skips_spaced s.ctx.flags).comp skips_skipLazy)
  · exact .const _
  · exact .pure _
  · exact .pure _
  · refine .filterMap (reads_escape s.ctx.flags) ?_
    rintro e r next ⟨⟨p, rfl⟩, hstuck⟩ hnext
    cases hnext
    exact ⟨⟨_, rfl, rfl⟩, hstuck⟩
  · exact .const _

/-- What a step leaves is the end of the text, if what the reader leaves is. -/
theorem suffix_of_follow {ctx' : Context} {next : Step}
    (hread : ∀ {s cs p ctx' rest}, Progress.read s n cs = some (p, ctx', rest) → rest <:+ cs)
    (h : s.follow n (next, cs) = some (p, ctx', rest)) : rest <:+ cs := by
  cases next with
  | on s' => exact hread h
  | enter number? inner =>
    obtain ⟨⟨q, inner', behind⟩, hinner, h⟩ := Option.bind_eq_some_iff.1 h
    dsimp only at h
    split at h
    · exact ((hread h).trans (List.drop_suffix 1 _)).trans (hread hinner)
    · cases h

/-- What the reader leaves is the end of the text. -/
theorem suffix_of_read {ctx' : Context} (h : s.read n cs = some (p, ctx', rest)) : rest <:+ cs := by
  induction n generalizing s p ctx' cs rest with
  | zero => cases h
  | succ n ih =>
    have hskip := (skips_spaced s.ctx.flags).suffix cs
    cases hs : skipSpaced s.ctx.flags cs with
    | nil =>
      rw [Progress.read_nil hs] at h
      cases h
      exact List.nil_suffix
    | cons c tail =>
      rw [hs] at hskip
      by_cases hc : c = ')'
      · subst hc
        rw [Progress.read_close hs] at h
        cases h
        exact hskip
      · rw [Progress.read_step hs hc] at h
        obtain ⟨⟨next, after⟩, hnext, h⟩ := Option.bind_eq_some_iff.1 h
        have hafter := ((reads_step s c).suffix hnext).trans ((List.suffix_cons _ _).trans hskip)
        exact (suffix_of_follow ih h).trans hafter

/-- Nothing goes on where a brace stands in front of the closing bracket. -/
theorem read_stuck {r : List Char} (h : Stuck s.ctx.flags r) : s.read n (r ++ closing) = none := by
  obtain ⟨b, rfl, hb⟩ := h
  cases n with
  | zero => rfl
  | succ n =>
    have hs : skipSpaced s.ctx.flags ('{' :: b ++ closing) = '{' :: (b ++ closing) := by
      have hblank : Text.isBlank '{' = false := by decide
      simp [skipSpaced, hblank]
    rw [Progress.read_step hs (by decide)]
    simp only [Progress.step, bounds_eq_none hb]
    rfl

/-- A bracket is one of the text if more than the closing bracket is left behind it. -/
theorem of_cons_eq_append_closing {tail r : List Char} (h : ')' :: tail = r ++ closing)
    (hlen : 2 ≤ tail.length) : ∃ r', r = ')' :: r' ∧ tail = r' ++ closing := by
  cases r with
  | nil =>
    cases h
    exact absurd hlen (by decide)
  | cons d r' =>
    obtain ⟨rfl, rfl⟩ := List.cons.inj h
    exact ⟨r', rfl, rfl⟩

/-- What follows on a step in front of the closing bracket is read from the text alone, if whatever
is read for it is. -/
theorem follow_closing {ctx' : Context} {next : Step}
    (hread : ∀ {m s cs p ctx' rest}, Progress.read s n (cs ++ closing) = some (p, ctx', rest) →
      2 ≤ rest.length → cs.length < m →
        ∃ r, rest = r ++ closing ∧ Progress.read s m cs = some (p, ctx', r))
    (h : s.follow n (next, cs ++ closing) = some (p, ctx', rest)) (hlen : 2 ≤ rest.length)
    (hm : cs.length < m) :
    ∃ r, rest = r ++ closing ∧ s.follow m (next, cs) = some (p, ctx', r) := by
  cases next with
  | on s' => exact hread h hlen hm
  | enter number? inner =>
    obtain ⟨⟨q, inner', behind⟩, hinner, h⟩ := Option.bind_eq_some_iff.1 h
    dsimp only at h
    split at h
    · next hclose =>
      obtain ⟨tail, rfl⟩ := List.head?_eq_some_iff.1 hclose
      rw [List.drop_one, List.tail_cons] at h
      have htail : 2 ≤ tail.length := Nat.le_trans hlen (suffix_of_read h).length_le
      obtain ⟨r₁, hr₁, hinner'⟩ := hread hinner (Nat.le_succ_of_le htail) hm
      obtain ⟨r₂, rfl, rfl⟩ := of_cons_eq_append_closing hr₁ htail
      have hr₂ := (suffix_of_read hinner').length_le
      rw [List.length_cons] at hr₂
      obtain ⟨r, hr, hbehind⟩ := hread h hlen (show r₂.length < m by omega)
      exact ⟨r, hr, Option.bind_eq_some_iff.2 ⟨_, hinner', hbehind⟩⟩
    · cases h

/-- What is read in front of the closing bracket without going beyond it is read from the text
alone, with any number of calls that is above its length. -/
theorem read_closing {ctx' : Context} (h : s.read n (cs ++ closing) = some (p, ctx', rest))
    (hlen : 2 ≤ rest.length) (hm : cs.length < m) :
    ∃ r, rest = r ++ closing ∧ s.read m cs = some (p, ctx', r) := by
  induction n generalizing m s p ctx' cs rest with
  | zero => cases h
  | succ n ih =>
    obtain ⟨m, rfl⟩ : ∃ k, m = k + 1 := ⟨m - 1, by omega⟩
    have hle := ((skips_spaced s.ctx.flags).suffix cs).length_le
    rcases (skips_spaced s.ctx.flags).closing cs with heq | hnil
    · cases hs : skipSpaced s.ctx.flags cs with
      | nil =>
        -- the text ends, where the closing bracket ends the group
        rw [hs] at heq
        rw [Progress.read_close heq] at h
        cases h
        exact ⟨[], rfl, Progress.read_nil hs⟩
      | cons c tail =>
        rw [hs] at heq hle
        rw [List.length_cons] at hle
        by_cases hc : c = ')'
        · subst hc
          rw [Progress.read_close heq] at h
          cases h
          exact ⟨')' :: tail, rfl, Progress.read_close hs⟩
        rw [Progress.read_step heq hc] at h
        rw [Progress.read_step hs hc]
        obtain ⟨⟨next, after⟩, hnext, h⟩ := Option.bind_eq_some_iff.1 h
        have hafter : 2 ≤ after.length :=
          Nat.le_trans hlen (suffix_of_follow suffix_of_read h).length_le
        obtain ⟨a, rfl, halone | ⟨⟨s', rfl, hctx⟩, hstuck⟩⟩ := (reads_step s c).closing hnext hafter
        · have ha := ((reads_step s c).suffix halone).length_le
          obtain ⟨r, hr, hfollow⟩ := follow_closing ih h hlen (show a.length < m by omega)
          exact ⟨r, hr, Option.bind_eq_some_iff.2 ⟨_, halone, hfollow⟩⟩
        · -- a word edge took the brace for no name, for the closing bracket follows on it
          rw [Progress.follow, read_stuck (hctx ▸ hstuck)] at h
          cases h
    · -- a comment takes the closing bracket with it
      rw [Progress.read_nil hnil] at h
      cases h
      cases hlen

end

/-! ## Whole texts -/

/-- The text of a pattern as far as it is read: up to its end, or up to a bracket that closes no
group of the text. -/
def read? (text : String) : Option (Piece × List Char) :=
  ((Progress.start {}).read (text.length + 2) text.toList).map fun x => (x.1, x.2.2)

section
variable {text : String} {p : Pattern} {q : Piece} {cs rest : List Char}

/-- A text that is read to its end is a pattern if it is not too deep and not too large. -/
theorem ofText?_of_read? (h : read? text = some (q, [])) :
    ofText? text =
      if q.depth ≤ depthLimit ∧ q.pattern.fits = true then some q.pattern else none := by
  obtain ⟨⟨q', ctx, rest⟩, hread, heq⟩ := Option.map_eq_some_iff.1 h
  cases heq
  rw [ofText?, show alternatives (text.length + 2) {} [] [] text.toList = _ from hread]
  simp

/-- A text that is not read to its end is no pattern. -/
theorem ofText?_eq_none_of_read? {c : Char} (h : read? text = some (q, c :: rest)) :
    ofText? text = none := by
  obtain ⟨⟨q', ctx, rest⟩, hread, heq⟩ := Option.map_eq_some_iff.1 h
  cases heq
  rw [ofText?, show alternatives (text.length + 2) {} [] [] text.toList = _ from hread]

/-- The pattern of a text that has to match from start to end. -/
def between (p : Pattern) : Pattern :=
  sequence [place .textStart, p, place .textEnd]

/-- A pattern between anchors matches all of a text. -/
theorem isMatch_between (p : Pattern) (s : String) : (between p).isMatch s = true ↔
    p.Spans s.toList.toArray 0 s.toList.toArray.size := by
  simp only [isMatch_iff, between, spans_sequence, SpansAll, Spans, Place.holds, decide_eq_true_eq]
  constructor
  · rintro ⟨i, j, -, _, ⟨rfl, rfl⟩, _, hspans, _, ⟨rfl, rfl⟩, rfl⟩
    exact hspans
  · intro hspans
    exact ⟨0, _, Nat.zero_le _, 0, ⟨rfl, rfl⟩, _, hspans, _, ⟨rfl, rfl⟩, rfl⟩

/-- A bracket in front of the end of a text is read with the end behind it. -/
theorem two_le_length_of_suffix {tail : List Char} (h : ')' :: tail <:+ cs ++ closing) :
    2 ≤ (')' :: tail).length := by
  cases tail with
  | cons d tail => exact Nat.le_add_left 2 _
  | nil =>
    have hlast : ')' :: [] <:+ closing :=
      List.suffix_of_suffix_length_le h (List.suffix_append cs closing) (by decide)
    exact absurd hlast (by decide)

/-- The reader behind the caret of an anchored text. -/
def Progress.behindCaret : Progress :=
  { Progress.start {} with items := [.piece ⟨.place .textStart, 0⟩] }

/-- The anchors of a text open a group around it, with no switches set. -/
theorem read_caret (n : Nat) (cs : List Char) :
    (Progress.start {}).read (n + 2) ('^' :: '(' :: '?' :: ':' :: cs) =
      Progress.behindCaret.follow n (.enter none {}, cs) := by
  have hcaret : (Progress.start {}).read (n + 2) ('^' :: '(' :: '?' :: ':' :: cs) =
      Progress.behindCaret.read (n + 1) ('(' :: '?' :: ':' :: cs) := by
    rw [Progress.read_step rfl (show '^' ≠ ')' by decide)]
    rfl
  have hgroup : groupStart {} ('?' :: ':' :: cs) = some (.opened none {}, cs) := by
    rw [groupStart_eq]
    rfl
  rw [hcaret, Progress.read_step rfl (show '(' ≠ ')' by decide)]
  simp only [Progress.step]
  rw [show Progress.behindCaret.ctx = {} from rfl, hgroup]
  rfl

/-- Behind the group only the end of the text may follow. -/
theorem read_dollar (n : Nat) (q : Piece) (ctx : Context) :
    (Progress.behindCaret.leave none q ctx).read (n + 2) ['$'] =
      some (⟨between q.pattern, max (max (max 0 0) (q.depth + 1)) 0 + 1⟩,
        { ctx with flags := {} }, []) := by
  rw [Progress.read_step rfl (show '$' ≠ ')' by decide)]
  rfl

/-- What the text of a pattern is in a group between start and end. -/
theorem of_anchored (h : ofText? (Route.anchored text) = some p) :
    ∃ q rest, read? text = some (q, rest) ∧
      (rest = [] ∧ q.depth ≤ depthLimit ∧ p = between q.pattern ∨ ∃ tail, rest = ')' :: tail) := by
  have hchars : (Route.anchored text).toList =
      '^' :: '(' :: '?' :: ':' :: (text.toList ++ closing) := by
    simp [Route.anchored, closing]
  have hlength : (Route.anchored text).length = text.length + 6 := by
    rw [← String.length_toList, hchars]
    simp [closing, String.length_toList]
  rw [ofText?, hlength, hchars] at h
  split at h
  · next whole ctx hread =>
    have hopen : Progress.behindCaret.follow (text.length + 6)
        (.enter none {}, text.toList ++ closing) = some (whole, ctx, []) :=
      (read_caret _ _).symm.trans hread
    obtain ⟨⟨q, ctx', behind⟩, hinner, hopen⟩ := Option.bind_eq_some_iff.1 hopen
    dsimp only at hopen
    split at hopen
    · next hclose =>
      obtain ⟨tail, rfl⟩ := List.head?_eq_some_iff.1 hclose
      have hlen := two_le_length_of_suffix (suffix_of_read hinner)
      obtain ⟨r, hr, halone⟩ := read_closing hinner hlen
        (show text.toList.length < text.length + 2 by rw [String.length_toList]; omega)
      refine ⟨q, r, by rw [read?, halone]; rfl, ?_⟩
      -- the group was closed by the bracket of the anchors, or by one of the text
      cases r with
      | cons c r =>
        obtain ⟨rfl, -⟩ := List.cons.inj hr
        exact .inr ⟨r, rfl⟩
      | nil =>
        left
        cases hr
        cases (read_dollar _ q ctx').symm.trans hopen
        split at h
        · next hfits =>
          cases h
          simp only [Bool.and_eq_true, decide_eq_true_eq] at hfits
          exact ⟨rfl, by omega, rfl⟩
        · cases h
    · cases hopen
  · cases h

end

end Wiring.Pattern
