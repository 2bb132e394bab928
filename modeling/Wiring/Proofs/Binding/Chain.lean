import Mathlib.Data.List.Chain
import Wiring.Proofs.Binding.Skip

/-!
# Chains behind one another

A chain is told by its links, each on its own (`Binding.bareLinks`). Putting a chain behind another
one (`Binding.or`) puts its links behind those of the other, unless nothing can follow the last of
these (`Binding.bareLinks_or`). Whether the check passes can be told from the links as well: each of
them passes on its own, and a skip comes right after a service
(`Binding.checkLinks_eq_ok_iff_bareLinks`). So what becomes of the check when chains are put behind
each other depends on the place where they meet (`Binding.check_or_eq_ok_iff`).
-/

namespace Wiring.Binding

/-! ## The head and what is behind it -/

/-- Whether something can follow the head of a chain. -/
def hasSlot : Binding → Bool
  | literal _ | constant _ | skip => false
  | env _ _ | service _ _ | array _ _ | closure _ _ _ => true

/-- Whether the head of a chain is for a service. -/
def isService : Binding → Bool
  | service _ _ => true
  | literal _ | constant _ | env _ _ | skip | array _ _ | closure _ _ _ => false

/-- The head of a chain with something else behind it, if something can follow it. -/
def withFallback : Binding → Option Binding → Binding
  | literal v, _ => literal v
  | constant r, _ => constant r
  | skip, _ => skip
  | env k _, f => env k f
  | service id _, f => service id f
  | array es _, f => array es f
  | closure s ps _, f => closure s ps f

/-- The head of a chain on its own. -/
def bare (b : Binding) : Binding :=
  b.withFallback none

section
variable {b : Binding} {f : Option Binding}

/-- A link without a slot has no fallback. -/
theorem fallback?_of_closed (h : b.hasSlot = false) : b.fallback? = none := by
  cases b <;> first | rfl | cases h

/-- A link with a slot has the fallback that it is given. -/
theorem fallback?_withFallback (h : b.hasSlot = true) (f : Option Binding) :
    (b.withFallback f).fallback? = f := by
  cases b <;> first | rfl | cases h

@[simp] theorem withFallback_withFallback (b : Binding) (f g : Option Binding) :
    (b.withFallback f).withFallback g = b.withFallback g := by
  cases b <;> rfl

@[simp] theorem bare_withFallback (b : Binding) (f : Option Binding) :
    (b.withFallback f).bare = b.bare :=
  withFallback_withFallback ..

@[simp] theorem isService_bare (b : Binding) : b.bare.isService = b.isService := by
  cases b <;> rfl

@[simp] theorem withFallback_eq_skip_iff : b.withFallback f = skip ↔ b = skip := by
  cases b <;> simp [withFallback]

@[simp] theorem bare_eq_skip_iff : b.bare = skip ↔ b = skip :=
  withFallback_eq_skip_iff

end

/-- Induction along a chain: what ends it is a link that nothing can follow, or one that nothing
follows. -/
theorem recChain {motive : Binding → Prop} (closed : ∀ b, b.hasSlot = false → motive b)
    (free : ∀ b, b.hasSlot = true → b.fallback? = none → motive b)
    (link : ∀ b f, b.hasSlot = true → b.fallback? = some f → motive f → motive b) (b : Binding) :
    motive b := by
  induction b using recParts with
  | h b ih =>
    cases hslot : b.hasSlot with
    | false => exact closed b hslot
    | true =>
      cases hf : b.fallback? with
      | none => exact free b hslot hf
      | some f => exact link b f hslot hf (ih _ f (.fallback hf))

section
variable {a b c f : Binding}

/-! ## The links of a chain -/

/-- A link without a fallback is its whole chain. -/
theorem chain_of_none (h : b.fallback? = none) : b.chain = [b] := by
  cases b with
  | literal | constant | skip => rfl
  | env _ f | service _ f | array _ f | closure _ _ f =>
    obtain rfl : f = none := h
    rfl

/-- A chain goes on with the chain of the fallback. -/
theorem chain_of_some (h : b.fallback? = some f) : b.chain = b :: f.chain := by
  cases b with
  | literal | constant | skip => cases h
  | env _ g | service _ g | array _ g | closure _ _ g =>
    obtain rfl : g = some f := h
    rfl

/-- A chain has a first link. -/
theorem chain_ne_nil (b : Binding) : b.chain ≠ [] := by
  cases h : b.fallback? with
  | none =>
    rw [chain_of_none h]
    exact List.cons_ne_nil _ _
  | some f =>
    rw [chain_of_some h]
    exact List.cons_ne_nil _ _

/-- The last link of a chain. -/
def last (b : Binding) : Binding :=
  b.chain.getLast b.chain_ne_nil

/-- A link without a fallback is its own last link. -/
theorem last_of_none (h : b.fallback? = none) : b.last = b := by
  simp only [last, chain_of_none h, List.getLast_singleton]

/-- The last link is that of the fallback. -/
theorem last_of_some (h : b.fallback? = some f) : b.last = f.last := by
  simp only [last, chain_of_some h, List.getLast_cons f.chain_ne_nil]

/-- The links of a chain, each on its own. -/
def bareLinks (b : Binding) : List Binding :=
  b.chain.map bare

/-- A link without a fallback is the only one of its chain. -/
theorem bareLinks_of_none (h : b.fallback? = none) : b.bareLinks = [b.bare] := by
  rw [bareLinks, chain_of_none h, List.map_singleton]

/-- The links of a chain go on with those of the fallback. -/
theorem bareLinks_of_some (h : b.fallback? = some f) : b.bareLinks = b.bare :: f.bareLinks := by
  rw [bareLinks, chain_of_some h, List.map_cons, ← bareLinks]

@[simp] theorem head?_bareLinks (b : Binding) : b.bareLinks.head? = some b.bare := by
  cases h : b.fallback? with
  | none => rw [bareLinks_of_none h, List.head?_cons]
  | some f => rw [bareLinks_of_some h, List.head?_cons]

@[simp] theorem getLast?_bareLinks (b : Binding) : b.bareLinks.getLast? = some b.last.bare := by
  rw [bareLinks, List.getLast?_map, List.getLast?_eq_getLast_of_ne_nil b.chain_ne_nil, ← last,
    Option.map_some]

/-! ## One chain behind another -/

/-- Nothing is put behind a link without a slot. -/
theorem or_of_closed (h : a.hasSlot = false) : a.or b = a := by
  cases a <;> first | rfl | cases h

/-- A binding is put into a slot that is free. -/
theorem or_of_free (hslot : a.hasSlot = true) (h : a.fallback? = none) :
    a.or b = a.withFallback (some b) := by
  cases a with
  | literal | constant | skip => cases hslot
  | env _ f | service _ f | array _ f | closure _ _ f =>
    obtain rfl : f = none := h
    rfl

/-- A binding is put behind the fallback of a link that has one. -/
theorem or_of_some (h : a.fallback? = some f) : a.or b = a.withFallback (some (f.or b)) := by
  cases a with
  | literal | constant | skip => cases h
  | env _ g | service _ g | array _ g | closure _ _ g =>
    obtain rfl : g = some f := h
    rfl

/-- What is put behind a chain is left out if nothing can follow its last link. -/
theorem or_eq_self (h : a.last.hasSlot = false) : a.or b = a := by
  induction a using recChain with
  | closed a hslot => exact or_of_closed hslot
  | free a hslot hf => rw [last_of_none hf, hslot] at h; cases h
  | link a f _ hf ih =>
    rw [last_of_some hf] at h
    rw [or_of_some hf, ih h, ← hf]
    cases a <;> rfl

/-- Otherwise its links come behind those of the chain. -/
theorem bareLinks_or (h : a.last.hasSlot = true) (b : Binding) :
    (a.or b).bareLinks = a.bareLinks ++ b.bareLinks := by
  induction a using recChain with
  | closed a hslot => rw [last_of_none (fallback?_of_closed hslot), hslot] at h; cases h
  | free a hslot hf =>
    rw [or_of_free hslot hf, bareLinks_of_some (fallback?_withFallback hslot _), bare_withFallback,
      bareLinks_of_none hf, List.singleton_append]
  | link a f hslot hf ih =>
    rw [last_of_some hf] at h
    rw [or_of_some hf, bareLinks_of_some (fallback?_withFallback hslot _), bare_withFallback, ih h,
      bareLinks_of_some hf, List.cons_append]

/-- It does not matter which of two bindings is put behind the other first. -/
theorem or_assoc (a b c : Binding) : (a.or b).or c = a.or (b.or c) := by
  induction a using recChain with
  | closed a hslot => rw [or_of_closed hslot, or_of_closed hslot, or_of_closed hslot]
  | free a hslot hf =>
    rw [or_of_free hslot hf, or_of_free hslot hf, or_of_some (fallback?_withFallback hslot _),
      withFallback_withFallback]
  | link a f hslot hf ih =>
    rw [or_of_some hf, or_of_some hf, or_of_some (fallback?_withFallback hslot _),
      withFallback_withFallback, ih]

/-- Only leaving out with something behind it comes to leaving out. -/
theorem or_eq_skip_iff : a.or b = skip ↔ a = skip := by
  cases hslot : a.hasSlot with
  | false => rw [or_of_closed hslot]
  | true =>
    cases hf : a.fallback? with
    | none => rw [or_of_free hslot hf, withFallback_eq_skip_iff]
    | some f => rw [or_of_some hf, withFallback_eq_skip_iff]

/-! ## The check -/

/-- A binding is legal if it is not left out itself and its links are legal. -/
theorem check_eq_ok_iff_ne_skip : b.check = .ok () ↔ b ≠ skip ∧ b.checkLinks = .ok () := by
  have hwhole : ¬ Slot.whole.AllowsSkip := nofun
  rw [check_eq_ok_iff_passes hwhole, Passes, imp_iff_not hwhole]

/-- Leaving out may stand behind a service only. -/
theorem allowsSkip_fallback_iff : (Slot.fallback b).AllowsSkip ↔ b.isService = true := by
  cases b with
  | service => exact iff_of_true .service rfl
  | _ => exact iff_of_false nofun nofun

/-- What stands in a binding stands in its head, or is what follows it. -/
theorem part_iff {s : Slot} :
    Part b s c ↔ Part b.bare s c ∨ s = .fallback b ∧ b.fallback? = some c := by
  constructor
  · rintro (hf | he | hp)
    · exact .inr ⟨rfl, hf⟩
    · exact .inl (.entry he)
    · exact .inl (.param hp)
  · rintro (hpart | ⟨rfl, hf⟩)
    · cases b <;> cases hpart <;> first | contradiction | exact .entry ‹_› | exact .param ‹_›
    · exact .fallback hf

/-- The links of a chain pass if its head does on its own, those behind it do, and a skip is the
first of these only behind a service. -/
theorem checkLinks_eq_ok_iff_bare : b.checkLinks = .ok () ↔ b.bare.checkLinks = .ok () ∧
    ∀ f, b.fallback? = some f → (f = skip → b.isService = true) ∧ f.checkLinks = .ok () := by
  have hparts : (∀ s c, Part b s c → Passes s c) ↔ (∀ s c, Part b.bare s c → Passes s c) ∧
      ∀ f, b.fallback? = some f → Passes (.fallback b) f := by
    constructor
    · intro h
      exact ⟨fun s c hc => h s c (part_iff.2 (.inl hc)), fun f hf => h _ f (.fallback hf)⟩
    · rintro ⟨hbare, hbehind⟩ s c hc
      rcases part_iff.1 hc with hc | ⟨rfl, hf⟩
      · exact hbare s c hc
      · exact hbehind c hf
  rw [checkLinks_eq_ok_iff, hparts, ← checkLinks_eq_ok_iff]
  simp only [Passes, allowsSkip_fallback_iff]

/-- A link that may come right behind another: a skip may only come behind a service. -/
def Follows (l l' : Binding) : Prop :=
  l' = skip → l.isService = true

/-- Without their fallbacks links may follow each other as they may with them. -/
theorem follows_bare : Follows b.bare c.bare ↔ (c = skip → b.isService = true) := by
  rw [Follows, bare_eq_skip_iff, isService_bare]

/-- The links of a chain pass if each does on its own and may come where it does. -/
theorem checkLinks_eq_ok_iff_bareLinks : b.checkLinks = .ok () ↔
    (∀ l ∈ b.bareLinks, l.checkLinks = .ok ()) ∧ b.bareLinks.IsChain Follows := by
  have hnone (b : Binding) (hf : b.fallback? = none) : b.checkLinks = .ok () ↔
      (∀ l ∈ b.bareLinks, l.checkLinks = .ok ()) ∧ b.bareLinks.IsChain Follows := by
    rw [checkLinks_eq_ok_iff_bare, bareLinks_of_none hf, hf]
    simp
  induction b using recChain with
  | closed b hslot => exact hnone b (fallback?_of_closed hslot)
  | free b hslot hf => exact hnone b hf
  | link b f hslot hf ih =>
    rw [checkLinks_eq_ok_iff_bare, bareLinks_of_some hf, hf, List.forall_mem_cons,
      List.isChain_cons, head?_bareLinks]
    simp only [Option.some.injEq, forall_eq', Option.mem_some, ih, follows_bare]
    tauto

/-- Behind a chain that passes, what is not left out has to pass as well, except that it may be a
skip behind a service. -/
theorem check_or_eq_ok_iff (ha : a.check = .ok ()) : (a.or b).check = .ok () ↔
    a.last.hasSlot = false ∨ (b = skip → a.last.isService = true) ∧ b.checkLinks = .ok () := by
  cases hslot : a.last.hasSlot with
  | false => simp [or_eq_self hslot, ha]
  | true =>
    obtain ⟨hskip, hlinks⟩ := check_eq_ok_iff_ne_skip.1 ha
    rw [checkLinks_eq_ok_iff_bareLinks] at hlinks
    have hmeet : (∀ l ∈ some a.last.bare, ∀ l' ∈ some b.bare, Follows l l') ↔
        (b = skip → a.last.isService = true) := by
      simp only [Option.mem_some_iff, forall_eq', follows_bare]
    rw [check_eq_ok_iff_ne_skip, Ne, or_eq_skip_iff, checkLinks_eq_ok_iff_bareLinks,
      bareLinks_or hslot, List.forall_mem_append, List.isChain_append, getLast?_bareLinks,
      head?_bareLinks, hmeet, checkLinks_eq_ok_iff_bareLinks]
    simp only [hlinks, hskip]
    tauto

end

/-- A chain has the links of the one put behind it after its own if something can follow its last
link, and its own alone otherwise. Putting chains behind each other is associative, and those that
pass the check give one that does. A skip behind a chain that passes keeps it so exactly if the last
link is for a service, or nothing can follow that link and the skip is left out. -/
theorem or_appends (a b c : Binding) :
    (a.or b).bareLinks = (if a.last.hasSlot then a.bareLinks ++ b.bareLinks else a.bareLinks) ∧
      (a.or b).or c = a.or (b.or c) ∧
      (a.check = .ok () → b.check = .ok () → (a.or b).check = .ok ()) ∧
      (a.check = .ok () → ((a.or skip).check = .ok () ↔
        a.last.isService = true ∨ a.last.hasSlot = false)) := by
  refine ⟨?_, or_assoc a b c, fun ha hb => ?_, fun ha => ?_⟩
  · split
    · next hslot => exact bareLinks_or hslot b
    · next hslot => rw [or_eq_self (Bool.not_eq_true _ ▸ hslot)]
  · obtain ⟨hskip, hlinks⟩ := check_eq_ok_iff_ne_skip.1 hb
    exact (check_or_eq_ok_iff ha).2 (.inr ⟨fun h => absurd h hskip, hlinks⟩)
  · have hlinks : skip.checkLinks = .ok () := rfl
    simp only [check_or_eq_ok_iff ha, hlinks]
    tauto

/-- A mailer from a service or else from the environment, and behind both a literal. -/
theorem or_appends_mailer :
    let a := service "mailer" (some (env "MAILER" none))
    let b := service "Mailer" (some skip)
    (a.check = .ok () ∧ b.check = .ok ()) ∧
      (a.or b).bareLinks = [service "mailer" none, env "MAILER" none, service "Mailer" none, skip] ∧
      (a.or b).or (literal .null) = a.or b ∧ (a.or b).check = .ok () ∧
        (a.or skip).check ≠ .ok () := by
  intro a b
  have ha : a.check = .ok () := rfl
  have hb : b.check = .ok () := rfl
  obtain ⟨hlinks, hassoc, hboth, hskip⟩ := or_appends a b (literal .null)
  exact ⟨⟨ha, hb⟩, hlinks, hassoc, hboth ha hb, fun h => absurd ((hskip ha).1 h) (by decide)⟩

end Wiring.Binding
