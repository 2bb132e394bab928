import Wiring.Proofs.Source.Reader

/-!
# Readers within other readers

A reader is within another one if that one reads whatever the first reads, and with the same
outcome: it gives the same, leaves the same, and writes the same after whatever was written before
(`Reader.Within`). A reader that is within itself depends on the trees that are left and on nothing
else. Readers that are put together from readers within others are within what is put together from
those, one rule for each way to put readers together.
-/

namespace Wiring.Source

/-- How far a reader has come that leaves some trees and wrote some more. -/
def Reading.on (s : Reading) (rest out : List Tree) (surplus : Bool) : Reading where
  rest
  written := out ++ s.written
  hasSurplus := s.hasSurplus || surplus

section
variable {s : Reading} {rest rest' out out' : List Tree} {surplus surplus' : Bool}

/-- A reader that took nothing and wrote nothing has come no further. -/
theorem Reading.on_self : s.on s.rest [] false = s := by
  simp [on]

/-- A reader comes as far in two steps as in one. -/
theorem Reading.on_on : (s.on rest out surplus).on rest' out' surplus' =
    s.on rest' (out' ++ out) (surplus || surplus') := by
  simp [on, Bool.or_assoc]

/-- Taking trees writes them as they stand. -/
theorem Reading.past_eq_on (s : Reading) (n : Nat) :
    s.past n = s.on (s.rest.drop n) (s.rest.take n).reverse false := by
  simp [past, on]

end

namespace Reader

/-- A reader is within another one that reads whatever it reads, with the same outcome. -/
class Within {α : Type} (r r' : Reader α) : Prop where
  run : ∀ {s s' a}, r.run s = .ok (a, s') → ∃ rest out surplus, s' = s.on rest out surplus ∧
    ∀ t, t.rest = s.rest → r'.run t = .ok (a, t.on rest out surplus)

namespace Within

section
variable {α β : Type} {r r' : Reader α} {f f' : α → Reader β}

/-- Readers whose outcome is told by the trees that are left. -/
theorem of_run (value : List Tree → α) (rest out : List Tree → List Tree)
    (h : ∀ s, r.run s = .ok (value s.rest, s.on (rest s.rest) (out s.rest) false)) :
    Within r r := by
  constructor
  intro s s' a hrun
  rw [h s] at hrun
  cases hrun
  refine ⟨_, _, _, rfl, fun t ht => ?_⟩
  rw [h t, ht]

instance pure (a : α) : Within (pure a) (pure a) :=
  of_run (fun _ => a) id (fun _ => []) fun s => by
    rw [id, Reading.on_self]
    rfl

instance malformed : Within (malformed : Reader α) r' :=
  ⟨nofun⟩

instance complain (text : String) : Within (complain text : Reader α) r' :=
  ⟨nofun⟩

/-- Two readers, one after the other, are within others if each is. -/
theorem seq (hr : Within r r') (hf : ∀ a, Within (f a) (f' a)) : Within (r >>= f) (r' >>= f') := by
  constructor
  intro s s' b hrun
  obtain ⟨a, s₁, hrun₁, hrun₂⟩ := run_bind_eq_ok.1 hrun
  obtain ⟨rest₁, out₁, surplus₁, rfl, hsame₁⟩ := hr.run hrun₁
  obtain ⟨rest₂, out₂, surplus₂, rfl, hsame₂⟩ := (hf a).run hrun₂
  refine ⟨rest₂, out₂ ++ out₁, surplus₁ || surplus₂, Reading.on_on, fun t ht => ?_⟩
  rw [run_bind_of_ok (hsame₁ t ht), hsame₂ (t.on rest₁ out₁ surplus₁) rfl, Reading.on_on]

instance bind [hr : Within r r'] [hf : ∀ a, Within (f a) (f' a)] : Within (r >>= f) (r' >>= f') :=
  seq hr hf

instance map [Within r r'] (g : α → β) : Within (g <$> r) (g <$> r') :=
  inferInstanceAs (Within (r >>= fun a => Pure.pure (g a)) (r' >>= fun a => Pure.pure (g a)))

instance discard [Within r r'] : Within (discard r) (discard r') :=
  inferInstanceAs (Within ((fun _ => PUnit.unit) <$> r) ((fun _ => PUnit.unit) <$> r'))

/-- A choice between two readers is within another one if both are. -/
theorem ite {c : Prop} [Decidable c] {q q' : Reader α} (hr : Within r r') (hq : Within q q') :
    Within (if c then r else q) (if c then r' else q') := by
  split <;> assumption

instance branch {c : Prop} [Decidable c] {q q' : Reader α} [hr : Within r r'] [hq : Within q q'] :
    Within (if c then r else q) (if c then r' else q') :=
  ite hr hq

/-- What is read next may depend on the trees that are left. -/
theorem get {f f' : Reading → Reader β} (h : ∀ s, Within (f s) (f' s))
    (hf' : ∀ s t : Reading, t.rest = s.rest → f' t = f' s) :
    Within (MonadState.get >>= f) (MonadState.get >>= f') := by
  constructor
  intro s s' b hrun
  rw [run_bind_of_ok (run_get s)] at hrun
  obtain ⟨rest, out, surplus, hs', hsame⟩ := (h s).run hrun
  refine ⟨rest, out, surplus, hs', fun t ht => ?_⟩
  rw [run_bind_of_ok (run_get t), hf' s t ht, hsame t ht]

end

/-! ## Looking ahead -/

section
variable {α β : Type} {r r' : Reader α} {f f' : Option (α × Reading) → Reader β} {s t : Reading}

/-- A reader that is within itself gives the same wherever the same trees are left. -/
theorem run_cases (h : Within r r) (ht : t.rest = s.rest) :
    (∃ a s' t', r.run s = .ok (a, s') ∧ r.run t = .ok (a, t')) ∨
      ∃ e e', r.run s = .error e ∧ r.run t = .error e' := by
  cases hs : r.run s with
  | ok x =>
    obtain ⟨_, _, _, -, hsame⟩ := h.run hs
    exact .inl ⟨x.1, x.2, _, rfl, hsame t ht⟩
  | error e =>
    cases ht' : r.run t with
    | ok y =>
      obtain ⟨_, _, _, -, hsame⟩ := h.run ht'
      cases hs.symm.trans (hsame s ht.symm)
    | error e' => exact .inr ⟨e, e', rfl, rfl⟩

/-- Looking ahead gives what would be read, and takes nothing. -/
theorem run_ahead_of_ok {x : α × Reading} (h : r.run s = .ok x) :
    (ahead r).run s = .ok (some x, s) := by
  rw [ahead, run_bind_of_ok (run_get s), h]
  rfl

/-- Looking ahead gives nothing where nothing can be read. -/
theorem run_ahead_of_error {e : Flaw} (h : r.run s = .error e) :
    (ahead r).run s = .ok (none, s) := by
  rw [ahead, run_bind_of_ok (run_get s), h]
  rfl

/-- Where a reader would read something, what is read next may depend on it. -/
theorem run_ahead_bind (hr : Within r r')
    (hsome : ∀ a s, Within (f (some (a, s))) (f' (some (a, s))))
    (hf' : ∀ a s t, t.rest = s.rest → f' (some (a, t)) = f' (some (a, s)))
    {x : α × Reading} {s' : Reading} {b : β} (hx : r.run s = .ok x)
    (h : (ahead r >>= f).run s = .ok (b, s')) :
    ∃ rest out surplus, s' = s.on rest out surplus ∧
      ∀ t, t.rest = s.rest → (ahead r' >>= f').run t = .ok (b, t.on rest out surplus) := by
  obtain ⟨a, s₁⟩ := x
  obtain ⟨rest₁, out₁, surplus₁, rfl, hsame₁⟩ := hr.run hx
  rw [run_bind_of_ok (run_ahead_of_ok hx)] at h
  obtain ⟨rest, out, surplus, hs', hsame⟩ := (hsome a _).run h
  refine ⟨rest, out, surplus, hs', fun t ht => ?_⟩
  rw [run_bind_of_ok (run_ahead_of_ok (hsame₁ t ht)),
    hf' a (s.on rest₁ out₁ surplus₁) (t.on rest₁ out₁ surplus₁) rfl, hsame t ht]

/-- What is read next may depend on what a reader would read here, and be refused if it reads
nothing. -/
theorem whereAhead (hr : Within r r') (hsome : ∀ a s, Within (f (some (a, s))) (f' (some (a, s))))
    (hf' : ∀ a s t, t.rest = s.rest → f' (some (a, t)) = f' (some (a, s)))
    (hnone : f none = Reader.malformed) : Within (ahead r >>= f) (ahead r' >>= f') := by
  constructor
  intro s s' b hrun
  cases hahead : r.run s with
  | error e =>
    rw [run_bind_of_ok (run_ahead_of_error hahead), hnone] at hrun
    cases hrun
  | ok x => exact run_ahead_bind hr hsome hf' hahead hrun

/-- What is read next may depend on whether a reader would read anything here. -/
theorem orAhead [hr : Within r r] (hsome : ∀ a s, Within (f (some (a, s))) (f (some (a, s))))
    (hf : ∀ a s t, t.rest = s.rest → f (some (a, t)) = f (some (a, s)))
    (hnone : Within (f none) (f none)) : Within (ahead r >>= f) (ahead r >>= f) := by
  constructor
  intro s s' b hrun
  cases hahead : r.run s with
  | error e =>
    rw [run_bind_of_ok (run_ahead_of_error hahead)] at hrun
    obtain ⟨rest, out, surplus, hs', hsame⟩ := hnone.run hrun
    refine ⟨rest, out, surplus, hs', fun t ht => ?_⟩
    rcases run_cases hr ht with ⟨a, s₁, t₁, hs₁, -⟩ | ⟨_, e', -, ht'⟩
    · cases hahead.symm.trans hs₁
    · rw [run_bind_of_ok (run_ahead_of_error ht'), hsame t ht]
  | ok x => exact run_ahead_bind hr hsome hf hahead hrun

end

/-! ## Single trees -/

section
variable {l : Look} {n : Nat} {text : String}

instance sees : Within (sees l) (sees l) :=
  of_run l id (fun _ => []) fun s => by
    rw [id, Reading.on_self]
    rfl

instance remaining : Within remaining remaining :=
  of_run List.length id (fun _ => []) fun s => by
    rw [id, Reading.on_self]
    rfl

instance write (ts : List Tree) : Within (write ts) (write ts) :=
  of_run (fun _ => ()) id (fun _ => ts.reverse) fun s => by
    simp [Reading.on, Reader.write]
    rfl

instance drop : Within (drop n) (drop n) :=
  of_run (fun _ => ()) (List.drop n) (fun _ => []) fun s => by
    simp [Reading.on, Reader.drop]
    rfl

instance skip : Within (skip n) (skip n) :=
  of_run (fun _ => ()) (List.drop n) (fun ts => (ts.take n).reverse)
    fun s => by rw [run_skip, Reading.past_eq_on]

instance expect : Within (expect l n) (expect l n) := by
  unfold Reader.expect; infer_instance

instance sign : Within (sign text) (sign text) := by
  unfold Reader.sign; infer_instance

instance word : Within (word text) (word text) := by
  unfold Reader.word; infer_instance

instance accept : Within (accept l n) (accept l n) := by
  unfold Reader.accept; infer_instance

instance acceptSign : Within (acceptSign text) (acceptSign text) := by
  unfold Reader.acceptSign; infer_instance

instance acceptWord : Within (acceptWord text) (acceptWord text) := by
  unfold Reader.acceptWord; infer_instance

instance anyWord : Within anyWord anyWord := by
  unfold Reader.anyWord
  refine get (fun s => ?_) fun s t h => by simp only [h]
  split <;> infer_instance

instance name : Within name name := by
  unfold Reader.name; infer_instance

instance nameOrBlank : Within nameOrBlank nameOrBlank := by
  unfold Reader.nameOrBlank; infer_instance

instance lifetime : Within lifetime lifetime := by
  unfold Reader.lifetime; infer_instance

instance anyText : Within Reader.text Reader.text := by
  unfold Reader.text
  refine get (fun s => ?_) fun s t h => by simp only [h]
  split <;> infer_instance

instance anyGroup : Within anyGroup anyGroup := by
  unfold Reader.anyGroup
  refine get (fun s => ?_) fun s t h => by simp only [h]
  split <;> infer_instance

end

/-! ## Groups, and what is written of them -/

section
variable {α : Type} {r r' : Reader α} {d : Delimiter} {s : Reading}

instance group [h : Within r r'] : Within (group d r) (group d r') := by
  constructor
  intro s s' a hrun
  obtain ⟨content, rest, inner, hrest, hinner, rfl⟩ := of_run_group_eq_ok hrun
  obtain ⟨rest', out, surplus, rfl, hsame⟩ := h.run hinner
  refine ⟨rest, [.group d out.reverse], surplus || !rest'.isEmpty, ?_, fun t ht => ?_⟩
  · simp [Reading.leave, Reading.on, Bool.or_assoc]
  · rw [run_group_of_ok (ht.trans hrest) (hsame _ rfl)]
    simp [Reading.leave, Reading.on, Bool.or_assoc]

/-- What a reader writes is given and not written. -/
theorem run_captured (r : Reader α) (s : Reading) : (Reader.captured r).run s =
    (r.run { s with written := [] }).map fun x =>
      ((x.1, x.2.written.reverse), { x.2 with written := s.written }) := by
  have hset : (Reader.captured r).run s = (r.run { s with written := [] } >>= fun x =>
      .ok ((x.1, x.2.written.reverse), { x.2 with written := s.written })) := rfl
  rw [hset]
  cases r.run { s with written := [] } <;> rfl

instance captured [h : Within r r'] : Within (captured r) (captured r') := by
  constructor
  intro s s' x hrun
  rw [run_captured] at hrun
  cases hinner : r.run { s with written := [] } with
  | error e => rw [hinner] at hrun; cases hrun
  | ok y =>
    obtain ⟨a, s₁⟩ := y
    obtain ⟨rest, out, surplus, rfl, hsame⟩ := h.run hinner
    rw [hinner] at hrun
    cases hrun
    refine ⟨rest, [], surplus, rfl, fun t ht => ?_⟩
    rw [run_captured, hsame { t with written := [] } ht]
    simp [Reading.on, Except.map]

instance silently [Within r r'] : Within (silently r) (silently r') := by
  unfold Reader.silently; infer_instance

/-- What a reader takes is written as it stands if it says so. -/
theorem run_verbatimIf (r : Reader (α × Bool)) (s : Reading) : (Reader.verbatimIf r).run s =
    (r.run s).map fun x => (x.1.1, if x.1.2 then
      { x.2 with
        written := (s.rest.take (s.rest.length - x.2.rest.length)).reverse ++ s.written }
      else x.2) := by
  rw [Reader.verbatimIf, run_bind_of_ok (run_get s)]
  cases h : r.run s with
  | error e => rw [run_bind_of_error h]; rfl
  | ok x =>
    rw [run_bind_of_ok h]
    obtain ⟨⟨a, isVerbatim⟩, s'⟩ := x
    cases isVerbatim <;> rfl

instance verbatimIf {r r' : Reader (α × Bool)} [h : Within r r'] :
    Within (verbatimIf r) (verbatimIf r') := by
  constructor
  intro s s' a hrun
  rw [run_verbatimIf] at hrun
  cases hinner : r.run s with
  | error e => rw [hinner] at hrun; cases hrun
  | ok x =>
    obtain ⟨⟨a', isVerbatim⟩, s₁⟩ := x
    obtain ⟨rest, out, surplus, rfl, hsame⟩ := h.run hinner
    rw [hinner] at hrun
    cases hrun
    refine ⟨rest, if isVerbatim then (s.rest.take (s.rest.length - rest.length)).reverse else out,
      surplus, ?_, fun t ht => ?_⟩
    · cases isVerbatim <;> rfl
    · rw [run_verbatimIf, hsame t ht, ht]
      cases isVerbatim <;> rfl

instance verbatim [Within r r'] : Within (verbatim r) (verbatim r') := by
  unfold Reader.verbatim; infer_instance

instance writtenIfFilled {r r' : Reader (List α)} [Within r r'] :
    Within (writtenIfFilled r) (writtenIfFilled r') := by
  unfold Reader.writtenIfFilled; infer_instance

end

/-! ## Lists -/

section
variable {α : Type} {r r' : Reader α} [Within r r'] {l : Look} {mark : String}

instance manyWhileGo (n : Nat) : Within (manyWhile.go l r n) (manyWhile.go l r' n) := by
  induction n with
  | zero | succ n ih => unfold manyWhile.go; infer_instance

instance manyWhile : Within (manyWhile l r) (manyWhile l r') := by
  unfold Reader.manyWhile; infer_instance

instance separatedUntilGo (n : Nat) :
    Within (separatedUntil.go l mark r n) (separatedUntil.go l mark r' n) := by
  induction n with
  | zero | succ n ih => unfold separatedUntil.go; infer_instance

instance separatedUntil : Within (separatedUntil l mark r) (separatedUntil l mark r') := by
  unfold Reader.separatedUntil; infer_instance

instance separatedWhileGo (n : Nat) :
    Within (separatedWhile.go l mark r n) (separatedWhile.go l mark r' n) := by
  induction n with
  | zero | succ n ih => unfold separatedWhile.go; infer_instance

instance separatedWhile : Within (separatedWhile l mark r) (separatedWhile l mark r') := by
  unfold Reader.separatedWhile; infer_instance

instance commaSeparated : Within (commaSeparated r) (commaSeparated r') := by
  unfold Reader.commaSeparated; infer_instance

instance angled (isFirst : α → Bool) : Within (angled isFirst r) (angled isFirst r') := by
  unfold Reader.angled; infer_instance

end

end Within

end Reader

end Wiring.Source
