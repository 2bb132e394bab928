import Wiring.Proofs.Result
import Wiring.Source.Reader

/-!
# What readers take

The readers of single tokens succeed exactly if the token comes next, and go on past it
(`Reader.run_name_eq_ok`, `Reader.run_sign_eq_ok`, `Reader.run_text_eq_ok`). A group is read by
reading its content on its own (`Reader.run_group_of_ok`).
-/

namespace Wiring.Source

/-- How far a reader has come after taking some more trees. -/
def Reading.past (s : Reading) (n : Nat) : Reading :=
  { s with rest := s.rest.drop n, written := (s.rest.take n).reverse ++ s.written }

/-- After one tree the rest is left. -/
theorem Reading.rest_past_one {s : Reading} {t : Tree} {rest : List Tree} (h : s.rest = t :: rest) :
    (s.past 1).rest = rest := by
  rw [past, h, List.drop_succ_cons, List.drop_zero]

/-- How far a reader has come after a group whose content was read on its own. -/
def Reading.leave (s : Reading) (d : Delimiter) (rest : List Tree) (inner : Reading) : Reading :=
  { s with
    rest
    written := .group d inner.written.reverse :: s.written
    hasSurplus := s.hasSurplus || inner.hasSurplus || !inner.rest.isEmpty }

namespace Look

section
variable {ts : List Tree} {c : Char} {w : String}

/-- Nothing is seen where nothing is left. -/
theorem nothing_iff : nothing ts = true ↔ ts = [] := List.isEmpty_iff

/-- A sign is seen where it is the next tree. -/
theorem sign_iff (hw : w.toList = [c]) : sign w ts = true ↔
    ∃ isJoint rest, ts = .leaf (.sign c isJoint) :: rest := by
  rw [sign, hw]
  unfold sign.go
  split
  · next heq => cases heq
  · next heq =>
    cases heq
    simp
  · next hne heq =>
    cases heq
    exact absurd rfl hne
  · next h =>
    simp only [Bool.false_eq_true, false_iff]
    rintro ⟨isJoint, rest, rfl⟩
    exact h c isJoint rest rfl

/-- A name is seen where the next tree is a word that may be one. -/
theorem name_iff : name ts = true ↔ ∃ w rest, ts = .leaf (.word w) :: rest ∧ isName w = true := by
  unfold name
  split
  · next w rest => simp
  · next h =>
    simp only [Bool.false_eq_true, false_iff]
    rintro ⟨w, rest, rfl, -⟩
    exact h _ _ rfl

end

end Look

namespace Reader

section
variable {α β : Type} {r : Reader α} {f : α → Reader β} {s s' : Reading} {a : α} {b : β} {l : Look}
  {w t : String}

/-- Two readers, one after the other, succeed if the second one does where the first one stopped. -/
theorem run_bind_eq_ok : (r >>= f).run s = .ok (b, s') ↔
    ∃ a s₁, r.run s = .ok (a, s₁) ∧ (f a).run s₁ = .ok (b, s') := by
  rw [StateT.run_bind, Result.bind_eq_ok, Prod.exists]

/-- After a reader that succeeds the next one goes on where it stopped. -/
theorem run_bind_of_ok (h : r.run s = .ok (a, s')) : (r >>= f).run s = (f a).run s' := by
  rw [StateT.run_bind, h, Result.ok_bind]

/-- After a reader that fails nothing more is read. -/
theorem run_bind_of_error {e : Flaw} (h : r.run s = .error e) : (r >>= f).run s = .error e := by
  rw [StateT.run_bind, h]
  rfl

/-- Looking takes nothing. -/
theorem run_sees (l : Look) (s : Reading) : (sees l).run s = .ok (l s.rest, s) := rfl

/-- Counting what is left takes nothing. -/
theorem run_remaining (s : Reading) : remaining.run s = .ok (s.rest.length, s) := rfl

/-- Trees are taken whatever they are. -/
theorem run_skip (n : Nat) (s : Reading) : (skip n).run s = .ok ((), s.past n) := rfl

/-- What is expected is taken, or refused if it is not there. -/
theorem run_expect (l : Look) (n : Nat) (s : Reading) :
    (expect l n).run s = if l s.rest then .ok ((), s.past n) else .error .malformed := by
  rw [expect, run_bind_of_ok (run_sees l s)]
  split <;> rfl

/-- What is accepted is taken, or left if it is not there. -/
theorem run_accept (l : Look) (n : Nat) (s : Reading) :
    (accept l n).run s = .ok (l s.rest, if l s.rest then s.past n else s) := by
  rw [accept, run_bind_of_ok (run_sees l s)]
  cases l s.rest <;> rfl

/-- Asking how far a reader has come takes nothing. -/
theorem run_get (s : Reading) : (get : Reader Reading).run s = .ok (s, s) := rfl

/-- A word is taken. -/
theorem run_anyWord_eq_ok : anyWord.run s = .ok (w, s') ↔
    s.rest = .leaf (.word w) :: s'.rest ∧ s' = s.past 1 := by
  rw [anyWord, run_bind_of_ok (run_get s)]
  constructor
  · intro h
    split at h
    · next w rest hrest =>
      rw [run_bind_of_ok (run_skip 1 s)] at h
      cases h
      exact ⟨by rw [hrest, Reading.rest_past_one hrest], rfl⟩
    · cases h
  · rintro ⟨hrest, rfl⟩
    rw [hrest]
    rfl

/-- A text is taken in whatever spelling. -/
theorem run_text_eq_ok : text.run s = .ok (t, s') ↔
    (∃ spelling, s.rest = .leaf (.literal spelling (.text t)) :: s'.rest) ∧ s' = s.past 1 := by
  rw [text, run_bind_of_ok (run_get s)]
  constructor
  · intro h
    split at h
    · next spelling t rest hrest =>
      rw [run_bind_of_ok (run_skip 1 s)] at h
      cases h
      exact ⟨⟨spelling, by rw [hrest, Reading.rest_past_one hrest]⟩, rfl⟩
    · cases h
  · rintro ⟨⟨spelling, hrest⟩, rfl⟩
    rw [hrest]
    rfl

/-- A word that may be a name is taken. -/
theorem run_name_eq_ok : name.run s = .ok (w, s') ↔
    s.rest = .leaf (.word w) :: s'.rest ∧ isName w = true ∧ s' = s.past 1 := by
  rw [name, run_bind_of_ok (run_sees .name s)]
  constructor
  · intro h
    split at h
    · next hname =>
      obtain ⟨hrest, rfl⟩ := run_anyWord_eq_ok.1 h
      obtain ⟨v, rest, hrest', hv⟩ := Look.name_iff.1 hname
      cases hrest.symm.trans hrest'
      exact ⟨hrest, hv, rfl⟩
    · cases h
  · rintro ⟨hrest, hw, rfl⟩
    rw [if_pos (Look.name_iff.2 ⟨w, _, hrest, hw⟩)]
    exact run_anyWord_eq_ok.2 ⟨hrest, rfl⟩

/-- A sign is taken, or refused if it is not there. -/
theorem run_sign {c : Char} (hw : w.toList = [c]) (s : Reading) : (sign w).run s =
    if Look.sign w s.rest then .ok ((), s.past 1) else .error .malformed := by
  rw [sign, run_expect, ← String.length_toList, hw, List.length_singleton]

/-- A sign is taken, whether or not another one follows at once. -/
theorem run_sign_eq_ok {c : Char} {u : Unit} (hw : w.toList = [c]) : (sign w).run s = .ok (u, s') ↔
    (∃ isJoint, s.rest = .leaf (.sign c isJoint) :: s'.rest) ∧ s' = s.past 1 := by
  rw [run_sign hw]
  constructor
  · intro h
    split at h
    · next hsign =>
      cases h
      obtain ⟨isJoint, rest, hrest⟩ := (Look.sign_iff hw).1 hsign
      exact ⟨⟨isJoint, by rw [hrest, Reading.rest_past_one hrest]⟩, rfl⟩
    · cases h
  · rintro ⟨⟨isJoint, hrest⟩, rfl⟩
    rw [if_pos ((Look.sign_iff hw).2 ⟨isJoint, _, hrest⟩)]

/-- A sign is taken, or left if it is not there. -/
theorem run_acceptSign {c : Char} (hw : w.toList = [c]) (s : Reading) : (acceptSign w).run s =
    .ok (Look.sign w s.rest, if Look.sign w s.rest then s.past 1 else s) := by
  rw [acceptSign, run_accept, ← String.length_toList, hw, List.length_singleton]

/-- Where the look does not hold, no items are read. -/
theorem run_manyWhile_of_not (n : Nat) (h : l s.rest = false) :
    (manyWhile.go l r n).run s = .ok ([], s) := by
  cases n with
  | zero => rfl
  | succ n => rw [manyWhile.go, run_bind_of_ok (run_sees l s), h]; rfl

/-- Where no items are read, nothing is taken. -/
theorem of_run_manyWhile_eq_nil (h : (manyWhile l r).run s = .ok ([], s')) : s' = s := by
  rw [manyWhile, run_bind_of_ok (run_remaining s)] at h
  cases hn : s.rest.length with
  | zero =>
    rw [hn] at h
    cases h
    rfl
  | succ n =>
    rw [hn, manyWhile.go, run_bind_of_ok (run_sees l s)] at h
    split at h
    · obtain ⟨a, s₁, -, h⟩ := run_bind_eq_ok.1 h
      obtain ⟨as, s₂, -, h⟩ := run_bind_eq_ok.1 h
      cases h
    · cases h
      rfl

/-- The content of a group is read on its own, and what is left of it is remembered. -/
theorem run_group_of_ok {d : Delimiter} {content rest : List Tree} {inner : Reading}
    (hrest : s.rest = .group d content :: rest) (h : r.run { rest := content } = .ok (a, inner)) :
    (group d r).run s = .ok (a, s.leave d rest inner) := by
  rw [group, run_bind_of_ok (run_get s)]
  simp only [hrest, if_pos, h]
  rfl

/-- A group is refused if its content is. -/
theorem run_group_of_error {d : Delimiter} {content rest : List Tree} {e : Flaw}
    (hrest : s.rest = .group d content :: rest) (h : r.run { rest := content } = .error e) :
    (group d r).run s = .error e := by
  rw [group, run_bind_of_ok (run_get s)]
  simp only [hrest, if_pos, h]
  rfl

/-- Only a group in the right brackets is read. -/
theorem of_run_group_eq_ok {d : Delimiter} (h : (group d r).run s = .ok (a, s')) :
    ∃ content rest inner, s.rest = .group d content :: rest ∧
      r.run { rest := content } = .ok (a, inner) ∧ s' = s.leave d rest inner := by
  have hall := h
  rw [group, run_bind_of_ok (run_get s)] at h
  split at h
  · next d' content rest hrest =>
    split at h
    · next hd =>
      subst hd
      cases hinner : r.run { rest := content } with
      | error e => cases (run_group_of_error hrest hinner).symm.trans hall
      | ok x =>
        cases (run_group_of_ok hrest hinner).symm.trans hall
        exact ⟨content, rest, x.2, hrest, hinner, rfl⟩
    · cases h
  · cases h

/-- All of some trees is read if nothing is left of them, nor of a group in them. -/
theorem wholeWritten_eq_ok {ts out : List Tree} : wholeWritten r ts = .ok (a, out) ↔
    ∃ s', r.run { rest := ts } = .ok (a, s') ∧ s'.rest = [] ∧ s'.hasSurplus = false ∧
      out = s'.written.reverse := by
  rw [wholeWritten, Result.bind_eq_ok]
  constructor
  · rintro ⟨⟨a', s'⟩, hrun, h⟩
    simp only at h
    split at h
    · next hend =>
      cases h
      rw [Bool.and_eq_true, List.isEmpty_iff, Bool.not_eq_true'] at hend
      exact ⟨s', hrun, hend.1, hend.2, rfl⟩
    · cases h
  · rintro ⟨s', hrun, hrest, hsurplus, rfl⟩
    refine ⟨(a, s'), hrun, ?_⟩
    simp [hrest, hsurplus, pure, Except.pure]

/-- Trees are read as a whole if nothing is left of them. -/
theorem whole_eq_ok {ts : List Tree} : whole r ts = .ok a ↔
    ∃ s', r.run { rest := ts } = .ok (a, s') ∧ s'.rest = [] ∧ s'.hasSurplus = false := by
  rw [whole, Result.bind_eq_ok]
  constructor
  · rintro ⟨⟨a', out⟩, h, ha⟩
    cases ha
    obtain ⟨s', hrun, hrest, hsurplus, -⟩ := wholeWritten_eq_ok.1 h
    exact ⟨s', hrun, hrest, hsurplus⟩
  · rintro ⟨s', hrun, hrest, hsurplus⟩
    exact ⟨(a, _), wholeWritten_eq_ok.2 ⟨s', hrun, hrest, hsurplus, rfl⟩, rfl⟩

/-- Trees that are refused are not read as a whole. -/
theorem whole_of_error {ts : List Tree} {e : Flaw} (h : r.run { rest := ts } = .error e) :
    whole r ts = .error e := by
  rw [whole, wholeWritten, h]
  rfl

end

end Reader

end Wiring.Source
