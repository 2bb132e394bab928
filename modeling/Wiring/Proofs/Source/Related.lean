import Wiring.Discovery.Attribute
import Wiring.Proofs.Source.Reader

/-!
# Readers that read the same as others

A reader may read whatever another one reads, come as far with it, and give something that is
related to what the other one gives (`Reader.Related`). There is a rule for each way in which two
readers are put together alike.
-/

namespace Wiring.Source.Reader

/-- What one reader reads, another one reads as well, and what they give is related. -/
def Related {α β : Type} (R : α → β → Prop) (r : Reader α) (r' : Reader β) : Prop :=
  ∀ s a s', r.run s = .ok (a, s') → ∃ b, R a b ∧ r'.run s = .ok (b, s')

namespace Related

section
variable {α β γ δ : Type} {R : α → β → Prop} {Q : γ → δ → Prop} {r : Reader α} {r' : Reader β}

/-- A reader reads what it reads. -/
theorem refl (r : Reader α) : Related Eq r r :=
  fun _ a _ hrun => ⟨a, rfl, hrun⟩

/-- Results are related without reading. -/
theorem pure {a : α} {b : β} (h : R a b) : Related R (pure a) (pure b) := by
  rintro s _ s' ⟨⟩
  exact ⟨b, h, rfl⟩

/-- What is never read is related to anything. -/
theorem malformed : Related R malformed r' :=
  nofun

/-- What is always refused is related to anything. -/
theorem complain {text : String} : Related R (complain text) r' :=
  nofun

/-- Two readers, one after the other, are related if each is. -/
theorem bind {k : α → Reader γ} {k' : β → Reader δ} (hr : Related R r r')
    (hk : ∀ a b, R a b → Related Q (k a) (k' b)) : Related Q (r >>= k) (r' >>= k') := by
  intro s c s' hrun
  obtain ⟨a, s₁, hrun₁, hrun₂⟩ := run_bind_eq_ok.1 hrun
  obtain ⟨b, hab, hrun₁'⟩ := hr s a s₁ hrun₁
  rw [run_bind_of_ok hrun₁']
  exact hk a b hab s₁ c s' hrun₂

/-- Both start with the same. -/
theorem after {k : α → Reader γ} {k' : α → Reader δ} (hk : ∀ a, Related Q (k a) (k' a)) :
    Related Q (r >>= k) (r >>= k') :=
  bind (refl r) fun a _ hab => hab ▸ hk a

/-- A choice between two readers is related if both are. -/
theorem ite {c : Prop} [Decidable c] {q : Reader α} {q' : Reader β} (hr : Related R r r')
    (hq : Related R q q') : Related R (if c then r else q) (if c then r' else q') := by
  split <;> assumption

/-- What is given together with something else. -/
theorem pair {f : α → β} {c : γ} (hr : Related (fun a b => b = f a) r r') :
    Related (fun x y => y = Prod.map f id x) (do return (← r, c)) (do return (← r', c)) :=
  bind hr fun _ _ hab => pure (hab ▸ rfl)

/-- What one reader reads as a whole, a related one does as well. -/
theorem whole {a : α} {ts : List Tree} (hr : Related R r r') (h : whole r ts = .ok a) :
    ∃ b, R a b ∧ whole r' ts = .ok b := by
  obtain ⟨s', hrun, hrest, hsurplus⟩ := whole_eq_ok.1 h
  obtain ⟨b, hab, hrun'⟩ := hr _ a s' hrun
  exact ⟨b, hab, whole_eq_ok.2 ⟨s', hrun', hrest, hsurplus⟩⟩

end

/-! ## Options -/

section
variable {σ τ : Type} {R : σ → τ → Prop} {step : σ → Path → Reader σ} {step' : τ → Path → Reader τ}

/-- Options are read one by one, with related results. -/
theorem optionsGo (hstep : ∀ x y p, R x y → Related R (step x p) (step' y p)) (n : Nat) {x : σ}
    {y : τ} (h : R x y) : Related R (options.go step n x) (options.go step' n y) := by
  induction n generalizing x y with
  | zero => exact .malformed
  | succ n ih =>
    refine .after fun p => .bind (hstep x y p h) fun x' y' h' => ?_
    refine .after fun _ => .ite (.pure h') ?_
    exact .after fun _ => .after fun _ => .ite (.pure h') (ih h')

/-- Options are read alike if each single option is. -/
theorem options (hstep : ∀ x y p, R x y → Related R (step x p) (step' y p)) {x : σ} {y : τ}
    (h : R x y) : Related R (options step x) (options step' y) :=
  .after fun _ => .ite (.pure h) (.after fun n => optionsGo hstep n h)

end

end Related

end Wiring.Source.Reader
