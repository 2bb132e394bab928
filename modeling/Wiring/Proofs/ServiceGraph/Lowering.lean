import Wiring.Proofs.Binding.Satisfiable
import Wiring.Proofs.Plan.References
import Wiring.Service.Graph

/-!
# What lowering a binding comes to

`Lowers P b r o` says that `b` is lowered to `r`, with the lowest stack position `o` that this
depends on, when each service link that is tried gets a verdict allowed by `P`. It is the meaning of
`lower` without the state of the walk: `lower_lowers` holds for every way to visit identifiers that
keeps an invariant. What a result says is then read off the relation: a success shows the binding
satisfied (`Lowers.satisfiable`), a failure refutes it (`not_lowers_of_satisfiable`), and an
argument refers to nothing but successes (`Lowers.refers`).

A verdict is no lower than the position that the whole result depends on, so a relation may be
narrowed to such verdicts on the identifiers that the binding names (`Lowers.imp`).
-/

namespace Wiring.ServiceGraph

open Binding (Names Satisfiable)

/-! ## Stack positions -/

/-- The position that a result depends on is at or below `n`. -/
def Covers (open? : Option Nat) (n : Nat) : Prop :=
  ∃ p, open? = some p ∧ p ≤ n

@[simp] theorem not_covers_none (n : Nat) : ¬ Covers none n := by
  rintro ⟨p, hp, -⟩
  cases hp

@[simp] theorem covers_some (p n : Nat) : Covers (some p) n ↔ p ≤ n := by
  simp [Covers]

/-- Of two positions the lower one counts. -/
theorem covers_lowest (a b : Option Nat) (n : Nat) :
    Covers (lowest a b) n ↔ Covers a n ∨ Covers b n := by
  cases a <;> cases b <;> simp [lowest]

@[simp] theorem lowest_none_left (a : Option Nat) : lowest none a = a := rfl

@[simp] theorem lowest_none_right (a : Option Nat) : lowest a none = a := by
  cases a <;> rfl

/-- It does not matter which of three positions are compared first. -/
theorem lowest_assoc (a b c : Option Nat) : lowest (lowest a b) c = lowest a (lowest b c) := by
  cases a <;> cases b <;> cases c <;> simp [lowest, Nat.min_assoc]

/-! ## What a step adds to a walk -/

/-- From `w` to `w'` nothing that was settled has changed, and the successes that began to wait
depend on nothing below the position that the step depends on. -/
structure Step (open? : Option Nat) (w w' : Walk) : Prop where
  settled : ∀ id r, w.settled.lookup id = some r → w'.settled.lookup id = some r
  pending : ∃ added, w'.pending = w.pending ++ added ∧ ∀ e ∈ added, Covers open? e.lowest

/-- A walk that goes nowhere changes nothing. -/
theorem Step.refl {o : Option Nat} (w : Walk) : Step o w w :=
  ⟨fun _ _ h => h, [], by simp, by simp⟩

/-- Two steps of a walk, one after the other, are one. -/
theorem Step.trans {o o' : Option Nat} {w w' w'' : Walk} (h : Step o w w') (h' : Step o' w' w'') :
    Step (lowest o o') w w'' := by
  obtain ⟨l, hl, hlo⟩ := h.pending
  obtain ⟨l', hl', hlo'⟩ := h'.pending
  refine ⟨fun id r hr => h'.settled id r (h.settled id r hr), l ++ l', by simp [hl', hl], ?_⟩
  intro e he
  rcases List.mem_append.1 he with he | he
  · exact (covers_lowest _ _ _).2 (.inl (hlo e he))
  · exact (covers_lowest _ _ _).2 (.inr (hlo' e he))

/-! ## The relation -/

/-- A list is lowered up to the first failure, which `wrap` says under its key. -/
inductive LowersAll {κ ε : Type} (wrap : κ → Blame → ε)
    (L : Binding → Except Blame (Option Argument) → Option Nat → Prop) :
    List (κ × Binding) → Except ε (List (κ × Argument)) → Option Nat → Prop
  | nil : LowersAll wrap L [] (.ok []) none
  | fail {k : κ} {b : Binding} {rest : List (κ × Binding)} {blame : Blame} {o : Option Nat} :
      L b (.error blame) o → LowersAll wrap L ((k, b) :: rest) (.error (wrap k blame)) o
  | cons {k : κ} {b : Binding} {rest : List (κ × Binding)} {a : Option Argument}
      {r : Except ε (List (κ × Argument))} {o o' : Option Nat} :
      L b (.ok a) o → LowersAll wrap L rest r o' →
      LowersAll wrap L ((k, b) :: rest) (r.map (keep k a)) (lowest o o')

/-- The fallback of a failed link is tried; when it fails too, the blame stays. -/
inductive FallsThrough (L : Binding → Except Blame (Option Argument) → Option Nat → Prop) :
    Option Binding → Blame → Option Nat → Except Blame (Option Argument) → Option Nat → Prop
  | none {blame : Blame} {o : Option Nat} : FallsThrough L none blame o (.error blame) o
  | ok {blame : Blame} {b : Binding} {a : Option Argument} {o o' : Option Nat} : L b (.ok a) o' →
      FallsThrough L (some b) blame o (.ok a) (lowest o o')
  | error {blame blame' : Blame} {b : Binding} {o o' : Option Nat} : L b (.error blame') o' →
      FallsThrough L (some b) blame o (.error blame) (lowest o o')

/-- A binding is lowered to a result when its service links get verdicts allowed by `P`. -/
inductive Lowers (P : String → Visit → Prop) :
    Binding → Except Blame (Option Argument) → Option Nat → Prop
  | literal {v : Literal} : Lowers P (.literal v) (.ok (some (.literal v))) none
  | constant {r : String} : Lowers P (.constant r) (.ok (some (.constant r))) none
  | skip : Lowers P .skip (.ok none) none
  | env {key : String} : Lowers P (.env key none) (.ok (some (.env key none))) none
  | envOk {key : String} {b : Binding} {a : Option Argument} {o : Option Nat} :
      Lowers P b (.ok a) o → Lowers P (.env key (some b)) (.ok (some (.env key a))) o
  | envError {key : String} {b : Binding} {blame : Blame} {o : Option Nat} :
      Lowers P b (.error blame) o → Lowers P (.env key (some b)) (.ok (some (.env key none))) o
  | service {id : String} {f : Option Binding} {v : Visit} : P id v → v.failure? = none →
      Lowers P (.service id f) (.ok (some (.service id))) v.open?
  | servicePassed {id : String} {f : Option Binding} {v : Visit} {cause : Failure}
      {r : Except Blame (Option Argument)} {o : Option Nat} : P id v → v.failure? = some cause →
      FallsThrough (Lowers P) f ⟨id, cause⟩ v.open? r o → Lowers P (.service id f) r o
  | array {es : List (Option ArrayKey × Binding)} {f : Option Binding}
      {values : List (Option ArrayKey × Argument)} {o : Option Nat} :
      LowersAll (fun _ blame => blame) (Lowers P) es (.ok values) o →
      Lowers P (.array es f) (.ok (some (.array values))) o
  | arrayPassed {es : List (Option ArrayKey × Binding)} {f : Option Binding} {blame : Blame}
      {r : Except Blame (Option Argument)} {o o' : Option Nat} :
      LowersAll (fun _ blame => blame) (Lowers P) es (.error blame) o →
      FallsThrough (Lowers P) f blame o r o' → Lowers P (.array es f) r o'
  | closure {s : String} {ps : List (String × Binding)} {f : Option Binding}
      {values : List (String × Argument)} {o : Option Nat} :
      LowersAll (fun _ blame => blame) (Lowers P) ps (.ok values) o →
      Lowers P (.closure s ps f) (.ok (some (.closure s values))) o
  | closurePassed {s : String} {ps : List (String × Binding)} {f : Option Binding} {blame : Blame}
      {r : Except Blame (Option Argument)} {o o' : Option Nat} :
      LowersAll (fun _ blame => blame) (Lowers P) ps (.error blame) o →
      FallsThrough (Lowers P) f blame o r o' → Lowers P (.closure s ps f) r o'

/-! ## What a result says -/

section
variable {κ ε : Type} {wrap : κ → Blame → ε}
  {L L' : Binding → Except Blame (Option Argument) → Option Nat → Prop}

/-- What is said of the members of a list may be weakened. -/
theorem LowersAll.imp {es : List (κ × Binding)} {r : Except ε (List (κ × Argument))}
    {o : Option Nat} (h : LowersAll wrap L es r o)
    (hL : ∀ e ∈ es, ∀ r' o', (∀ n, Covers o' n → Covers o n) → L e.2 r' o' → L' e.2 r' o') :
    LowersAll wrap L' es r o := by
  induction h with
  | nil => exact .nil
  | fail hb => exact .fail (hL _ (.head _) _ _ (fun _ hn => hn) hb)
  | cons hb _ ih =>
    refine .cons (hL _ (.head _) _ _ (fun n hn => (covers_lowest _ _ n).2 (.inl hn)) hb) ?_
    exact ih fun e he r' o' ho =>
      hL e (.tail _ he) r' o' fun n hn => (covers_lowest _ _ n).2 (.inr (ho n hn))

/-- What is said of a fallback may be weakened. -/
theorem FallsThrough.imp {f : Option Binding} {blame : Blame} {o o' : Option Nat}
    {r : Except Blame (Option Argument)} (h : FallsThrough L f blame o r o')
    (hL : ∀ b, f = some b → ∀ r' o'', (∀ n, Covers o'' n → Covers o' n) → L b r' o'' →
      L' b r' o'') : FallsThrough L' f blame o r o' := by
  cases h with
  | none => exact .none
  | ok hb => exact .ok (hL _ rfl _ _ (fun n hn => (covers_lowest _ _ n).2 (.inr hn)) hb)
  | error hb => exact .error (hL _ rfl _ _ (fun n hn => (covers_lowest _ _ n).2 (.inr hn)) hb)

/-- What the result depends on includes what the failed link depends on. -/
theorem FallsThrough.covers {f : Option Binding} {blame : Blame} {o o' : Option Nat}
    {r : Except Blame (Option Argument)} (h : FallsThrough L f blame o r o') (n : Nat)
    (hn : Covers o n) : Covers o' n := by
  cases h with
  | none => exact hn
  | ok _ | error _ => exact (covers_lowest _ _ n).2 (.inl hn)

end

/-- Only the verdicts on identifiers that the binding names matter, and each of them depends on
nothing below the position that the result depends on. -/
theorem Lowers.imp {P Q : String → Visit → Prop} {b : Binding} {r : Except Blame (Option Argument)}
    {o : Option Nat} (h : Lowers P b r o)
    (hPQ : ∀ id v, Names b id → P id v → (∀ n, Covers v.open? n → Covers o n) → Q id v) :
    Lowers Q b r o := by
  induction b using Binding.recData generalizing r o with
  | literal v => cases h; exact .literal
  | constant c => cases h; exact .constant
  | skip => cases h; exact .skip
  | env key f ih =>
    cases h with
    | env => exact .env
    | envOk hb => exact .envOk (ih _ rfl hb fun id v hn => hPQ id v (.fallback rfl hn))
    | envError hb => exact .envError (ih _ rfl hb fun id v hn => hPQ id v (.fallback rfl hn))
  | service id f ih =>
    cases h with
    | service hP hv => exact .service (hPQ id _ .head hP fun _ hn => hn) hv
    | servicePassed hP hv hf =>
      refine .servicePassed (hPQ id _ .head hP hf.covers) hv (hf.imp ?_)
      intro b hb r' o' ho h
      exact ih b hb h fun z v hn hP hc => hPQ z v (.fallback hb hn) hP fun n hn => ho n (hc n hn)
  | array es f ihe ihf =>
    cases h with
    | array hes =>
      refine .array (hes.imp ?_)
      intro e he r' o' ho h
      exact ihe e he h fun z v hn hP hc => hPQ z v (.entry he hn) hP fun n hn => ho n (hc n hn)
    | arrayPassed hes hf =>
      refine .arrayPassed (hes.imp ?_) (hf.imp ?_)
      · intro e he r' o' ho h
        exact ihe e he h fun z v hn hP hc =>
          hPQ z v (.entry he hn) hP fun n hn => hf.covers n (ho n (hc n hn))
      · intro b hb r' o' ho h
        exact ihf b hb h fun z v hn hP hc => hPQ z v (.fallback hb hn) hP fun n hn => ho n (hc n hn)
  | closure s ps f ihp ihf =>
    cases h with
    | closure hps =>
      refine .closure (hps.imp ?_)
      intro p hp r' o' ho h
      exact ihp p hp h fun z v hn hP hc => hPQ z v (.param hp hn) hP fun n hn => ho n (hc n hn)
    | closurePassed hps hf =>
      refine .closurePassed (hps.imp ?_) (hf.imp ?_)
      · intro p hp r' o' ho h
        exact ihp p hp h fun z v hn hP hc =>
          hPQ z v (.param hp hn) hP fun n hn => hf.covers n (ho n (hc n hn))
      · intro b hb r' o' ho h
        exact ihf b hb h fun z v hn hP hc => hPQ z v (.fallback hb hn) hP fun n hn => ho n (hc n hn)

/-- A list that is lowered has all its members lowered. -/
theorem LowersAll.forall_ok {κ ε : Type} {wrap : κ → Blame → ε}
    {L : Binding → Except Blame (Option Argument) → Option Nat → Prop} {es : List (κ × Binding)}
    {r : Except ε (List (κ × Argument))} {o : Option Nat} (h : LowersAll wrap L es r o) :
    ∀ values, r = .ok values → ∀ e ∈ es, ∃ a o', L e.2 (.ok a) o' := by
  induction h with
  | nil => intro _ _ e he; cases he
  | fail _ => intro _ hr; cases hr
  | @cons k b rest a r o o' hb _ ih =>
    intro values hr e he
    cases r with
    | error _ => cases hr
    | ok values' =>
      rcases List.mem_cons.1 he with rfl | he
      · exact ⟨a, o, hb⟩
      · exact ih values' rfl e he

/-- A list that fails has a first member that fails, and says so under its key. -/
theorem LowersAll.exists_first_error {κ ε : Type} {wrap : κ → Blame → ε}
    {L : Binding → Except Blame (Option Argument) → Option Nat → Prop} {es : List (κ × Binding)}
    {r : Except ε (List (κ × Argument))} {o : Option Nat} (h : LowersAll wrap L es r o) :
    ∀ err, r = .error err → ∃ before e after, es = before ++ e :: after ∧
      (∀ x ∈ before, ∃ a o', L x.2 (.ok a) o') ∧
      ∃ blame o', L e.2 (.error blame) o' ∧ err = wrap e.1 blame := by
  induction h with
  | nil => intro _ hr; cases hr
  | @fail k b rest blame o hb =>
    intro err hr
    cases hr
    exact ⟨[], (k, b), rest, rfl, nofun, blame, o, hb, rfl⟩
  | @cons k b rest a r o o' hb _ ih =>
    intro err hr
    cases r with
    | ok _ => cases hr
    | error err' =>
      cases hr
      obtain ⟨before, e, after, rfl, hbefore, hfail⟩ := ih _ rfl
      refine ⟨(k, b) :: before, e, after, rfl, fun x hx => ?_, hfail⟩
      rcases List.mem_cons.1 hx with rfl | hx
      · exact ⟨a, o, hb⟩
      · exact hbefore x hx

/-- A list that fails has a member that fails, and says so under its key. -/
theorem LowersAll.exists_error {κ ε : Type} {wrap : κ → Blame → ε}
    {L : Binding → Except Blame (Option Argument) → Option Nat → Prop} {es : List (κ × Binding)}
    {r : Except ε (List (κ × Argument))} {o : Option Nat} (h : LowersAll wrap L es r o) (err : ε)
    (hr : r = .error err) :
    ∃ e ∈ es, ∃ blame o', L e.2 (.error blame) o' ∧ err = wrap e.1 blame := by
  obtain ⟨before, e, after, rfl, -, hfail⟩ := h.exists_first_error err hr
  exact ⟨e, by simp, hfail⟩

/-- A binding that is lowered to a value can be satisfied by the identifiers whose visits succeed.
-/
theorem Lowers.satisfiable {P : String → Visit → Prop} {C : Set String}
    (hP : ∀ id v, P id v → v.failure? = none → id ∈ C) {b : Binding} {a : Option Argument}
    {o : Option Nat} (h : Lowers P b (.ok a) o) : Satisfiable C b := by
  induction b using Binding.recData generalizing a o with
  | literal v => exact .literal
  | constant c => exact .constant
  | skip => exact .skip
  | env key f => exact .env
  | service id f ih =>
    cases h with
    | service hid hv => exact .service (hP id _ hid hv)
    | servicePassed _ _ hf => cases hf with | ok hb => exact .fallback rfl (ih _ rfl hb)
  | array es f ihe ihf =>
    cases h with
    | array hes =>
      refine .array fun e he => ?_
      obtain ⟨a, o, h⟩ := hes.forall_ok _ rfl e he
      exact ihe e he h
    | arrayPassed _ hf => cases hf with | ok hb => exact .fallback rfl (ihf _ rfl hb)
  | closure s ps f ihp ihf =>
    cases h with
    | closure hps =>
      refine .closure fun p hp => ?_
      obtain ⟨a, o, h⟩ := hps.forall_ok _ rfl p hp
      exact ihp p hp h
    | closurePassed _ hf => cases hf with | ok hb => exact .fallback rfl (ihf _ rfl hb)

/-- A binding that can be satisfied does not fail when no visit of an identifier of `C` does. -/
theorem not_lowers_of_satisfiable {P : String → Visit → Prop} {C : Set String}
    (hP : ∀ id v, P id v → v.failure? ≠ none → id ∉ C) {b : Binding} (h : Satisfiable C b) :
    ∀ blame o, ¬ Lowers P b (.error blame) o := by
  induction h with
  | literal | constant | skip | env => intro _ _ hl; cases hl
  | service hid =>
    intro blame o hl
    cases hl with
    | servicePassed hv hfail _ => exact hP _ _ hv (by simp [hfail]) hid
  | array _ ih =>
    intro blame o hl
    cases hl with
    | arrayPassed hes _ =>
      obtain ⟨e, he, blame', o', hl, -⟩ := hes.exists_error _ rfl
      exact ih e he blame' o' hl
  | closure _ ih =>
    intro blame o hl
    cases hl with
    | closurePassed hps _ =>
      obtain ⟨p, hp, blame', o', hl, -⟩ := hps.exists_error _ rfl
      exact ih p hp blame' o' hl
  | @fallback b b' hf _ ih =>
    intro blame o hl
    cases hl with
    | servicePassed _ _ hft | arrayPassed _ hft | closurePassed _ hft =>
      cases hf
      cases hft with | error hb => exact ih _ _ hb

/-- What a failure is blamed on is a link somewhere in the binding whose visit failed, and the cause
is that of the visit. -/
theorem Lowers.blamed {P : String → Visit → Prop} {b : Binding} {blame : Blame} {o : Option Nat}
    (h : Lowers P b (.error blame) o) :
    Names b blame.dependency ∧ ∃ v, P blame.dependency v ∧ v.failure? = some blame.cause := by
  induction b using Binding.recData generalizing blame o with
  | literal | constant | skip | env => cases h
  | service id f _ =>
    cases h with
    | servicePassed hP hv hf => cases hf <;> exact ⟨.head, _, hP, hv⟩
  | array es f ihe _ =>
    cases h with
    | @arrayPassed _ _ blame' _ _ _ hes hf =>
      -- the blame stays with the entry that failed, whatever becomes of the fallback
      obtain rfl : blame' = blame := by cases hf <;> rfl
      obtain ⟨e, he, _, _, hl, rfl⟩ := hes.exists_error _ rfl
      obtain ⟨hn, hv⟩ := ihe e he hl
      exact ⟨.entry he hn, hv⟩
  | closure s ps f ihp _ =>
    cases h with
    | @closurePassed _ _ _ blame' _ _ _ hps hf =>
      obtain rfl : blame' = blame := by cases hf <;> rfl
      obtain ⟨p, hp, _, _, hl, rfl⟩ := hps.exists_error _ rfl
      obtain ⟨hn, hv⟩ := ihp p hp hl
      exact ⟨.param hp hn, hv⟩

/-- Every value of a list that is lowered comes from a member of it. -/
theorem LowersAll.mem_ok {κ ε : Type} {wrap : κ → Blame → ε}
    {L : Binding → Except Blame (Option Argument) → Option Nat → Prop} {es : List (κ × Binding)}
    {r : Except ε (List (κ × Argument))} {o : Option Nat} (h : LowersAll wrap L es r o) :
    ∀ values, r = .ok values → ∀ x ∈ values, ∃ e ∈ es, ∃ o', L e.2 (.ok (some x.2)) o' := by
  induction h with
  | nil =>
    intro values hr x hx
    cases hr
    cases hx
  | fail _ => intro _ hr; cases hr
  | @cons k b rest a r o o' hb _ ih =>
    intro values hr x hx
    cases r with
    | error _ => cases hr
    | ok values' =>
      cases hr
      have hrest : x ∈ values' → ∃ e ∈ (k, b) :: rest, ∃ o', L e.2 (.ok (some x.2)) o' := by
        intro hx
        obtain ⟨e, he, hl⟩ := ih values' rfl x hx
        exact ⟨e, .tail _ he, hl⟩
      cases a with
      | none => exact hrest hx
      | some a =>
        rcases List.mem_cons.1 hx with rfl | hx
        · exact ⟨(k, b), .head _, o, hb⟩
        · exact hrest hx

/-- An argument refers only to identifiers whose visits succeeded. -/
theorem Lowers.refers {P : String → Visit → Prop} {b : Binding} {a : Argument} {o : Option Nat}
    (h : Lowers P b (.ok (some a)) o) {z : String} (hz : a.Refers z) :
    ∃ v, P z v ∧ v.failure? = none := by
  induction b using Binding.recData generalizing a o with
  | literal v | constant c => cases h; cases hz
  | skip => cases h
  | env key f ih =>
    cases h with
    | env => cases hz
    | envOk hb => cases hz with | env hz => exact ih _ rfl hb hz
    | envError _ => cases hz
  | service id f ih =>
    cases h with
    | service hid hv => cases hz; exact ⟨_, hid, hv⟩
    | servicePassed _ _ hf => cases hf with | ok hb => exact ih _ rfl hb hz
  | array es f ihe ihf =>
    cases h with
    | array hes =>
      cases hz with
      | entry hx hz =>
        obtain ⟨e, he, o', hl⟩ := hes.mem_ok _ rfl _ hx
        exact ihe e he hl hz
    | arrayPassed _ hf => cases hf with | ok hb => exact ihf _ rfl hb hz
  | closure s ps f ihp ihf =>
    cases h with
    | closure hps =>
      cases hz with
      | arg hx hz =>
        obtain ⟨p, hp, o', hl⟩ := hps.mem_ok _ rfl _ hx
        exact ihp p hp hl hz
    | closurePassed _ hf => cases hf with | ok hb => exact ihf _ rfl hb hz

/-! ## Lowering follows the relation -/

@[simp] theorem bind_apply {α β : Type} (x : WalkM α) (f : α → WalkM β) (w : Walk) :
    (x >>= f) w = f (x w).1 (x w).2 := rfl

@[simp] theorem pure_apply {α : Type} (a : α) (w : Walk) : (pure a : WalkM α) w = (a, w) := rfl

@[simp] theorem get_apply (w : Walk) : (get : WalkM Walk) w = (w, w) := rfl

@[simp] theorem modify_apply (f : Walk → Walk) (w : Walk) : (modify f : WalkM Unit) w = ((), f w) :=
  rfl

/-- Lowers the members of a list up to the first that fails, which `wrap` says under its key.
Arrays, closures and services differ in nothing else. -/
def lowerEach {κ ε : Type} (visit : String → WalkM Visit) (wrap : κ → Blame → ε)
    (open? : Option Nat) :
    List (κ × Binding) → WalkM (Except ε (List (κ × Argument)) × Option Nat)
  | [] => return (.ok [], open?)
  | (k, b) :: rest => do
    match ← lower visit b with
    | (.error blame, o) => return (.error (wrap k blame), lowest open? o)
    | (.ok value, o) =>
      let (values, o) ← lowerEach visit wrap (lowest open? o) rest
      return (values.map (keep k value), o)

/-- Lowers one member of a list and, if that succeeds, the `others`. -/
def lowerFirst {κ ε : Type} (visit : String → WalkM Visit) (wrap : κ → Blame → ε)
    (others : Option Nat → WalkM (Except ε (List (κ × Argument)) × Option Nat))
    (open? : Option Nat) (k : κ) (b : Binding) :
    WalkM (Except ε (List (κ × Argument)) × Option Nat) := do
  match ← lower visit b with
  | (.error blame, o) => return (.error (wrap k blame), lowest open? o)
  | (.ok value, o) =>
    let (values, o) ← others (lowest open? o)
    return (values.map (keep k value), o)

/-- What lowers a list member by member is `lowerEach`. -/
theorem eq_lowerEach {κ ε : Type} {visit : String → WalkM Visit} {wrap : κ → Blame → ε}
    {f : Option Nat → List (κ × Binding) → WalkM (Except ε (List (κ × Argument)) × Option Nat)}
    (hnil : ∀ o, f o [] = pure (.ok [], o))
    (hcons : ∀ o k b rest, f o ((k, b) :: rest) = lowerFirst visit wrap (f · rest) o k b)
    (open? : Option Nat) (es : List (κ × Binding)) :
    f open? es = lowerEach visit wrap open? es := by
  induction es generalizing open? with
  | nil => exact hnil open?
  | cons e rest ih =>
    obtain ⟨k, b⟩ := e
    have hrest : (f · rest) = fun o => lowerEach visit wrap o rest := funext ih
    rw [hcons, hrest, lowerEach]
    rfl

/-- Entries are lowered one by one. -/
theorem lowerEntries_eq (visit : String → WalkM Visit) (open? : Option Nat)
    (es : List (Option ArrayKey × Binding)) :
    lowerEntries visit open? es = lowerEach visit (fun _ blame => blame) open? es :=
  eq_lowerEach (fun _ => by rw [lowerEntries]) (fun _ _ _ _ => by rw [lowerEntries]; rfl) open? es

/-- The parameters of a closure are lowered one by one. -/
theorem lowerParams_eq (visit : String → WalkM Visit) (open? : Option Nat)
    (ps : List (String × Binding)) :
    lowerParams visit open? ps = lowerEach visit (fun _ blame => blame) open? ps :=
  eq_lowerEach (fun _ => by rw [lowerParams]) (fun _ _ _ _ => by rw [lowerParams]; rfl) open? ps

/-- The parameters of a service are lowered one by one. -/
theorem lowerService_eq (visit : String → WalkM Visit) (id : String) (open? : Option Nat)
    (ps : List (String × Binding)) :
    lowerService visit id open? ps = lowerEach visit (ownFailure id) open? ps :=
  eq_lowerEach (fun _ => by rw [lowerService]) (fun _ _ _ _ => by rw [lowerService]; rfl) open? ps

section
variable {I : Walk → Prop} {P : Walk → String → Visit → Prop} {visit : String → WalkM Visit}

/-- What is said of a verdict stays true as the walk goes on. -/
def Persists (P : Walk → String → Visit → Prop) : Prop :=
  ∀ o w w' id v, Step o w w' → P w id v → P w' id v

/-- A visit of `id` keeps the invariant, adds to the walk no more than its verdict says, and gives a
verdict that `P` allows. -/
def VisitKeeps (I : Walk → Prop) (P : Walk → String → Visit → Prop)
    (visit : String → WalkM Visit) (id : String) : Prop :=
  ∀ w, I w → I (visit id w).2 ∧ Step (visit id w).1.open? w (visit id w).2 ∧
    P (visit id w).2 id (visit id w).1

/-- Lowering `b` keeps the invariant, adds to the walk no more than its result says, and follows the
relation. -/
def LowerKeeps (I : Walk → Prop) (P : Walk → String → Visit → Prop)
    (visit : String → WalkM Visit) (b : Binding) : Prop :=
  ∀ w, I w → I (lower visit b w).2 ∧ Step (lower visit b w).1.2 w (lower visit b w).2 ∧
    Lowers (P (lower visit b w).2) b (lower visit b w).1.1 (lower visit b w).1.2

/-- After a failure the fallback is tried, and the invariant is kept. -/
theorem fallThrough_fallsThrough {f : Option Binding}
    (hf : ∀ b, f = some b → LowerKeeps I P visit b) (blame : Blame) (o : Option Nat) {w : Walk}
    (hw : I w) :
    let x := fallThrough (lowerFallback visit f) blame o w
    I x.2 ∧ ∃ o', Step o' w x.2 ∧ x.1.2 = lowest o o' ∧
      FallsThrough (Lowers (P x.2)) f blame o x.1.1 x.1.2 := by
  cases f with
  | none =>
    simp only [lowerFallback, fallThrough, pure_apply]
    exact ⟨hw, none, .refl w, by simp, .none⟩
  | some b =>
    obtain ⟨hI, hs, hl⟩ := hf b rfl w hw
    simp only [lowerFallback, fallThrough, bind_apply]
    generalize lower visit b w = y at *
    obtain ⟨⟨r, o'⟩, w'⟩ := y
    cases r with
    | ok a => exact ⟨hI, o', hs, rfl, .ok hl⟩
    | error blame' => exact ⟨hI, o', hs, rfl, .error hl⟩

/-- A list is lowered up to the first failure, and the invariant is kept. -/
theorem lowerEach_lowersAll (hP : Persists P)
    {κ ε : Type} (wrap : κ → Blame → ε) {es : List (κ × Binding)}
    (hes : ∀ e ∈ es, LowerKeeps I P visit e.2) (o : Option Nat) {w : Walk} (hw : I w) :
    let x := lowerEach visit wrap o es w
    I x.2 ∧ ∃ o', Step o' w x.2 ∧ x.1.2 = lowest o o' ∧
      LowersAll wrap (Lowers (P x.2)) es x.1.1 o' := by
  induction es generalizing o w with
  | nil => exact ⟨hw, none, .refl w, by simp [lowerEach], .nil⟩
  | cons e rest ih =>
    obtain ⟨k, b⟩ := e
    obtain ⟨hI, hs, hl⟩ := hes _ (.head _) w hw
    simp only [lowerEach, bind_apply]
    generalize lower visit b w = y at *
    obtain ⟨⟨r, o₁⟩, w₁⟩ := y
    cases r with
    | error blame => exact ⟨hI, o₁, hs, rfl, .fail hl⟩
    | ok a =>
      obtain ⟨hI', o₂, hs', ho, hl'⟩ := ih (fun e he => hes e (.tail _ he)) (lowest o o₁) hI
      refine ⟨hI', lowest o₁ o₂, hs.trans hs', ?_, ?_⟩
      · simpa [lowest_assoc] using ho
      · exact .cons (hl.imp fun _ _ _ h _ => hP _ _ _ _ _ hs' h) hl'

/-- What can be said of the visits of the identifiers that a binding names can be said of lowering
it: the invariant is kept and the result follows the relation. -/
theorem lower_lowers (hP : Persists P) {b : Binding}
    (hv : ∀ id, Names b id → VisitKeeps I P visit id) : LowerKeeps I P visit b := by
  intro w hw
  induction b using Binding.recData generalizing w with
  | literal v => simp only [lower, pure_apply]; exact ⟨hw, .refl w, .literal⟩
  | constant c => simp only [lower, pure_apply]; exact ⟨hw, .refl w, .constant⟩
  | skip => simp only [lower, pure_apply]; exact ⟨hw, .refl w, .skip⟩
  | env key f ih =>
    cases f with
    | none => simp only [lower, lowerFallback, pure_apply]; exact ⟨hw, .refl w, .env⟩
    | some b =>
      obtain ⟨hI, hs, hl⟩ := ih b rfl (fun id hn => hv id (.fallback rfl hn)) w hw
      simp only [lower, lowerFallback, bind_apply]
      generalize lower visit b w = y at *
      obtain ⟨⟨r, o⟩, w'⟩ := y
      cases r with
      | ok a => exact ⟨hI, hs, .envOk hl⟩
      | error blame => exact ⟨hI, hs, .envError hl⟩
  | service id f ih =>
    obtain ⟨hI, hs, hid⟩ := hv id .head w hw
    simp only [lower, bind_apply]
    generalize visit id w = y at *
    obtain ⟨v, w'⟩ := y
    cases hfail : v.failure? with
    | none => exact ⟨hI, hs, .service hid hfail⟩
    | some cause =>
      obtain ⟨hI', o', hs', ho, hf⟩ := fallThrough_fallsThrough
        (fun b hb => fun w hw => ih b hb (fun id hn => hv id (.fallback hb hn)) w hw)
        ⟨id, cause⟩ v.open? hI
      exact ⟨hI', ho ▸ hs.trans hs', .servicePassed (hP _ _ _ _ _ hs' hid) hfail hf⟩
  | array es f ihe ihf =>
    obtain ⟨hI, o, hs, ho, hl⟩ := lowerEach_lowersAll hP (fun _ blame => blame)
      (fun e he w hw => ihe e he (fun id hn => hv id (.entry he hn)) w hw) none hw
    simp only [lower, bind_apply, lowerEntries_eq]
    generalize lowerEach visit (fun _ blame => blame) none es w = y at *
    obtain ⟨⟨r, o₁⟩, w'⟩ := y
    obtain rfl : o₁ = o := ho
    cases r with
    | ok values => exact ⟨hI, hs, .array hl⟩
    | error blame =>
      obtain ⟨hI', o', hs', ho', hf⟩ := fallThrough_fallsThrough
        (fun b hb => fun w hw => ihf b hb (fun id hn => hv id (.fallback hb hn)) w hw) blame o₁ hI
      refine ⟨hI', ho' ▸ hs.trans hs', .arrayPassed (hl.imp ?_) hf⟩
      exact fun e _ r' o' _ h => h.imp fun _ _ _ hid _ => hP _ _ _ _ _ hs' hid
  | closure s ps f ihp ihf =>
    obtain ⟨hI, o, hs, ho, hl⟩ := lowerEach_lowersAll hP (fun _ blame => blame)
      (fun p hp w hw => ihp p hp (fun id hn => hv id (.param hp hn)) w hw) none hw
    simp only [lower, bind_apply, lowerParams_eq]
    generalize lowerEach visit (fun _ blame => blame) none ps w = y at *
    obtain ⟨⟨r, o₁⟩, w'⟩ := y
    obtain rfl : o₁ = o := ho
    cases r with
    | ok values => exact ⟨hI, hs, .closure hl⟩
    | error blame =>
      obtain ⟨hI', o', hs', ho', hf⟩ := fallThrough_fallsThrough
        (fun b hb => fun w hw => ihf b hb (fun id hn => hv id (.fallback hb hn)) w hw) blame o₁ hI
      refine ⟨hI', ho' ▸ hs.trans hs', .closurePassed (hl.imp ?_) hf⟩
      exact fun p _ r' o' _ h => h.imp fun _ _ _ hid _ => hP _ _ _ _ _ hs' hid

/-- The parameters of a service likewise. -/
theorem lowerService_lowersAll (hP : Persists P)
    {id : String} {ps : List (String × Binding)}
    (hv : ∀ p ∈ ps, ∀ z, Names p.2 z → VisitKeeps I P visit z) {w : Walk} (hw : I w) :
    let x := lowerService visit id none ps w
    I x.2 ∧ Step x.1.2 w x.2 ∧ LowersAll (ownFailure id) (Lowers (P x.2)) ps x.1.1 x.1.2 := by
  obtain ⟨hI, o, hs, ho, hl⟩ := lowerEach_lowersAll hP (ownFailure id)
    (fun p hp => lower_lowers hP (hv p hp)) none hw
  rw [lowest_none_left] at ho
  subst ho
  rw [lowerService_eq]
  exact ⟨hI, hs, hl⟩

end

end Wiring.ServiceGraph
