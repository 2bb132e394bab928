import Wiring.Proofs.Binding.Satisfiable
import Wiring.Proofs.Result

/-!
# Where a parameter may be left out

The check of a binding looks at the links of a chain in one way and at what stands on its own, in an
array or a closure, in another, and does not go into a fallback that is a skip. `Holds` says where
inside a binding, at any depth, another one stands. The check passes exactly if every skip that
stands anywhere is the fallback of a service (`Binding.check_eq_ok_iff`).
-/

namespace Wiring.Binding

/-- Where a binding stands. -/
inductive Slot where
  /-- In nothing else. -/
  | whole
  | fallback (link : Binding)
  | entry
  | param

/-- The slots in which a parameter may be left out. -/
inductive Slot.AllowsSkip : Slot → Prop
  | service {id : String} {f : Option Binding} : AllowsSkip (.fallback (.service id f))

/-- What stands in a binding, with nothing in between. -/
inductive Part : Binding → Slot → Binding → Prop
  | fallback {b f : Binding} : b.fallback? = some f → Part b (.fallback b) f
  | entry {es : List (Option ArrayKey × Binding)} {e : Option ArrayKey × Binding}
      {f : Option Binding} : e ∈ es → Part (.array es f) .entry e.2
  | param {s : String} {ps : List (String × Binding)} {p : String × Binding}
      {f : Option Binding} : p ∈ ps → Part (.closure s ps f) .param p.2

/-- A binding in a slot is another one in a slot, or has it somewhere inside. -/
inductive Holds : Slot → Binding → Slot → Binding → Prop
  | self {s : Slot} {b : Binding} : Holds s b s b
  | inside {s t u : Slot} {b c d : Binding} : Part b t c → Holds t c u d → Holds s b u d

section
variable {b c : Binding} {s t : Slot} {f : Option Binding} {key id kind source : String}
  {es : List (Option ArrayKey × Binding)} {ps : List (String × Binding)}

/-- Induction on a binding, with a hypothesis for whatever stands in it. -/
theorem recParts {motive : Binding → Prop}
    (h : ∀ b, (∀ s c, Part b s c → motive c) → motive b) (b : Binding) : motive b := by
  induction b using recData with
  | literal v => exact h _ fun _ _ hc => by cases hc; contradiction
  | constant r => exact h _ fun _ _ hc => by cases hc; contradiction
  | skip => exact h _ fun _ _ hc => by cases hc; contradiction
  | env key f ihf => exact h _ fun _ c hc => by cases hc with | fallback hf => exact ihf c hf
  | service id f ihf => exact h _ fun _ c hc => by cases hc with | fallback hf => exact ihf c hf
  | array es f ihes ihf =>
    refine h _ fun _ c hc => ?_
    cases hc with
    | fallback hf => exact ihf c hf
    | entry he => exact ihes _ he
  | closure source ps f ihps ihf =>
    refine h _ fun _ c hc => ?_
    cases hc with
    | fallback hf => exact ihf c hf
    | param hp => exact ihps _ hp

/-- What is said of the slot of every skip is said of the slot of the whole, if it is one, and of
those in its parts. -/
theorem forall_holds_skip_iff {P : Slot → Prop} : (∀ u, Holds s b u .skip → P u) ↔
    (b = .skip → P s) ∧ ∀ t c, Part b t c → ∀ u, Holds t c u .skip → P u := by
  constructor
  · intro h
    exact ⟨fun hb => h s (hb ▸ .self), fun t c hc u hu => h u (.inside hc hu)⟩
  · rintro ⟨hself, hparts⟩ u (_ | ⟨hc, hu⟩)
    · exact hself rfl
    · exact hparts _ _ hc u hu

/-! ## What the check says of the parts -/

/-- A binding passes in a slot if it is no skip that must not stand there, and its links pass. -/
def Passes (s : Slot) (b : Binding) : Prop :=
  (b = .skip → s.AllowsSkip) ∧ b.checkLinks = .ok ()

/-- Where nothing may be left out, the check of a binding and that of its place are the same. -/
theorem check_eq_ok_iff_passes (hs : ¬ s.AllowsSkip) : b.check = .ok () ↔ Passes s b := by
  cases b <;> simp [check, Passes, hs]

/-- A fallback is legal if there is none, or its binding is. -/
theorem checkFallback_eq_ok_iff : checkFallback kind f = .ok () ↔
    ∀ c, f = some c → c.check = .ok () := by
  cases f with
  | none => simp [checkFallback]
  | some c => cases c <;> simp [checkFallback, check]

/-- Entries are checked one by one. -/
theorem checkEntries_eq (es : List (Option ArrayKey × Binding)) :
    checkEntries es = es.forM fun e => e.2.check := by
  induction es with
  | nil => rfl
  | cons e es ih =>
    obtain ⟨key?, b⟩ := e
    cases b <;> simp only [checkEntries, ih] <;> rfl

/-- Parameters are checked one by one. -/
theorem checkParams_eq (ps : List (String × Binding)) :
    checkParams ps = ps.forM fun p => p.2.check := by
  induction ps with
  | nil => rfl
  | cons p ps ih =>
    obtain ⟨name, b⟩ := p
    cases b <;> simp only [checkParams, ih] <;> rfl

/-- Bindings that are checked one by one are legal if each of them is. -/
theorem forM_check_eq_ok_iff {κ : Type} {l : List (κ × Binding)} :
    (l.forM fun e => e.2.check) = .ok () ↔ ∀ e ∈ l, e.2.check = .ok () := by
  refine ⟨Result.of_forM_eq_ok, fun h => ?_⟩
  induction l with
  | nil => rfl
  | cons e l ih =>
    exact Result.bind_eq_ok.2 ⟨(), h e (.head _), ih fun e he => h e (.tail _ he)⟩

/-- Two checks, one after the other, pass if both do. -/
theorem seq_eq_ok_iff {x y : Except Misplaced Unit} :
    (do x; y) = .ok () ↔ x = .ok () ∧ y = .ok () :=
  Result.bind_eq_ok.trans ⟨fun ⟨_, h⟩ => h, fun h => ⟨(), h⟩⟩

/-- The links of a chain pass if each part passes in its slot. -/
theorem checkLinks_eq_ok_iff : b.checkLinks = .ok () ↔ ∀ t c, Part b t c → Passes t c := by
  have hentry : ¬ Slot.entry.AllowsSkip := nofun
  have hparam : ¬ Slot.param.AllowsSkip := nofun
  cases b with
  | literal v => exact ⟨fun _ _ _ hc => by cases hc; contradiction, fun _ => rfl⟩
  | constant r => exact ⟨fun _ _ _ hc => by cases hc; contradiction, fun _ => rfl⟩
  | skip => exact ⟨fun _ _ _ hc => by cases hc; contradiction, fun _ => rfl⟩
  | env key f =>
    have hf : ¬ (Slot.fallback (.env key f)).AllowsSkip := nofun
    simp only [checkLinks, checkFallback_eq_ok_iff, check_eq_ok_iff_passes hf]
    constructor
    · rintro h _ c ⟨hc⟩
      exact h c hc
    · exact fun h c hc => h _ c (.fallback hc)
  | service id f =>
    -- a fallback of a service is not checked if it is a skip, and a skip has no links
    have hpasses (c : Binding) : Passes (.fallback (.service id f)) c ↔ c.checkLinks = .ok () :=
      and_iff_right fun _ => .service
    have hlinks : (Binding.service id f).checkLinks = .ok () ↔
        ∀ c, f = some c → c.checkLinks = .ok () := by
      cases f with
      | none => simp [checkLinks]
      | some c => cases c <;> simp [checkLinks]
    rw [hlinks]
    constructor
    · rintro h _ c ⟨hc⟩
      exact (hpasses c).2 (h c hc)
    · exact fun h c hc => (hpasses c).1 (h _ c (.fallback hc))
  | array es f =>
    have hf : ¬ (Slot.fallback (.array es f)).AllowsSkip := nofun
    simp only [checkLinks, seq_eq_ok_iff, checkFallback_eq_ok_iff, checkEntries_eq,
      forM_check_eq_ok_iff]
    constructor
    · rintro ⟨hfallback, hentries⟩ _ c (hc | he)
      · exact (check_eq_ok_iff_passes hf).1 (hfallback c hc)
      · exact (check_eq_ok_iff_passes hentry).1 (hentries _ he)
    · exact fun h => ⟨fun c hc => (check_eq_ok_iff_passes hf).2 (h _ c (.fallback hc)),
        fun e he => (check_eq_ok_iff_passes hentry).2 (h _ _ (.entry he))⟩
  | closure source ps f =>
    have hf : ¬ (Slot.fallback (.closure source ps f)).AllowsSkip := nofun
    simp only [checkLinks, seq_eq_ok_iff, checkFallback_eq_ok_iff, checkParams_eq,
      forM_check_eq_ok_iff]
    constructor
    · rintro ⟨hfallback, hparams⟩ _ c (hc | _ | hp)
      · exact (check_eq_ok_iff_passes hf).1 (hfallback c hc)
      · exact (check_eq_ok_iff_passes hparam).1 (hparams _ hp)
    · exact fun h => ⟨fun c hc => (check_eq_ok_iff_passes hf).2 (h _ c (.fallback hc)),
        fun p hp => (check_eq_ok_iff_passes hparam).2 (h _ _ (.param hp))⟩

/-- A binding passes in a slot if all skips in it stand where a parameter may be left out. -/
theorem passes_iff (s : Slot) (b : Binding) :
    Passes s b ↔ ∀ u, Holds s b u .skip → u.AllowsSkip := by
  induction b using recParts generalizing s with
  | h b ih =>
    rw [Passes, checkLinks_eq_ok_iff, forall_holds_skip_iff]
    exact and_congr_right fun _ => forall₂_congr fun t c => forall_congr' fun hc => ih t c hc t

/-- The check passes exactly if every skip that stands anywhere in the binding, at any depth, is the
fallback of a service. -/
theorem check_eq_ok_iff (b : Binding) : b.check = .ok () ↔
    ∀ s, Holds .whole b s .skip → ∃ id f, s = .fallback (.service id f) := by
  have hwhole : ¬ Slot.whole.AllowsSkip := nofun
  rw [check_eq_ok_iff_passes hwhole, passes_iff]
  refine forall₂_congr fun s _ => ⟨?_, ?_⟩
  · rintro ⟨⟩
    exact ⟨_, _, rfl⟩
  · rintro ⟨id, f, rfl⟩
    exact .service

/-- A skip that only a fallback leads to is found. -/
example : (service "a" (some (array [(none, .skip)] (some (service "b" (some .skip)))))).check =
    .error .alone := rfl

end

end Wiring.Binding
