import Mathlib.Data.Set.Basic
import Wiring.Binding.Basic

/-!
# Which bindings can be satisfied

`Satisfiable C b` says that the chain `b` has a link that gives a value when exactly the identifiers
of `C` can be built, and `Names b id` that a service link somewhere inside `b`, at any depth, is for
`id`. Whether a binding can be satisfied depends on the identifiers it names and on no others
(`Satisfiable.local`), so it can only be lost by taking one of these away.
-/

namespace Wiring

/-- The second half of a member of a list of pairs is smaller than the list. -/
theorem sizeOf_snd_lt {κ α : Type} [SizeOf κ] [SizeOf α] {es : List (κ × α)} {e : κ × α}
    (h : e ∈ es) : sizeOf e.2 < sizeOf es := by
  have h1 := List.sizeOf_lt_of_mem h
  have h2 : sizeOf e.2 < sizeOf e := by
    obtain ⟨k, a⟩ := e
    show sizeOf a < sizeOf (k, a)
    rw [Prod.mk.sizeOf_spec]
    omega
  omega

namespace Binding

/-- Induction on a binding, with a hypothesis for each entry, each parameter and the fallback. -/
theorem recData {motive : Binding → Prop}
    (literal : ∀ v, motive (.literal v))
    (constant : ∀ r, motive (.constant r))
    (skip : motive .skip)
    (env : ∀ key f, (∀ b, f = some b → motive b) → motive (.env key f))
    (service : ∀ id f, (∀ b, f = some b → motive b) → motive (.service id f))
    (array : ∀ es f, (∀ e ∈ es, motive e.2) → (∀ b, f = some b → motive b) → motive (.array es f))
    (closure : ∀ s ps f, (∀ p ∈ ps, motive p.2) → (∀ b, f = some b → motive b) →
      motive (.closure s ps f)) : ∀ b, motive b
  | .literal v => literal v
  | .constant r => constant r
  | .skip => skip
  | .env key f => env key f fun b _ =>
    recData literal constant skip env service array closure b
  | .service id f => service id f fun b _ =>
    recData literal constant skip env service array closure b
  | .array es f => array es f
    (fun e _ => recData literal constant skip env service array closure e.2)
    (fun b _ => recData literal constant skip env service array closure b)
  | .closure s ps f => closure s ps f
    (fun p _ => recData literal constant skip env service array closure p.2)
    (fun b _ => recData literal constant skip env service array closure b)
termination_by b => sizeOf b
decreasing_by
  · subst ‹_ = some _›; simp; omega
  · subst ‹_ = some _›; simp; omega
  · have h := sizeOf_snd_lt ‹_ ∈ _›; simp; omega
  · subst ‹_ = some _›; simp; omega
  · have h := sizeOf_snd_lt ‹_ ∈ _›; simp; omega
  · subst ‹_ = some _›; simp; omega

/-- A service link inside the binding, at any depth, is for the identifier. -/
inductive Names : Binding → String → Prop
  | head {id : String} {f : Option Binding} : Names (.service id f) id
  | fallback {b b' : Binding} {id : String} : b.fallback? = some b' → Names b' id → Names b id
  | entry {es : List (Option ArrayKey × Binding)} {e : Option ArrayKey × Binding}
      {f : Option Binding} {id : String} : e ∈ es → Names e.2 id → Names (.array es f) id
  | param {s : String} {ps : List (String × Binding)} {p : String × Binding} {f : Option Binding}
      {id : String} : p ∈ ps → Names p.2 id → Names (.closure s ps f) id

/-- The chain has a link that gives a value, or leaves the parameter out, when the identifiers of
`C` are those that can be built. Arrays and closures need all that is in them. -/
inductive Satisfiable (C : Set String) : Binding → Prop
  | literal {v : Literal} : Satisfiable C (.literal v)
  | constant {r : String} : Satisfiable C (.constant r)
  | skip : Satisfiable C .skip
  | env {key : String} {f : Option Binding} : Satisfiable C (.env key f)
  | service {id : String} {f : Option Binding} : id ∈ C → Satisfiable C (.service id f)
  | array {es : List (Option ArrayKey × Binding)} {f : Option Binding} :
      (∀ e ∈ es, Satisfiable C e.2) → Satisfiable C (.array es f)
  | closure {s : String} {ps : List (String × Binding)} {f : Option Binding} :
      (∀ p ∈ ps, Satisfiable C p.2) → Satisfiable C (.closure s ps f)
  | fallback {b b' : Binding} : b.fallback? = some b' → Satisfiable C b' → Satisfiable C b

/-- Only the identifiers that a binding names matter to whether it can be satisfied. -/
theorem Satisfiable.local {C C' : Set String} {b : Binding} (h : Satisfiable C b)
    (hC : ∀ id, b.Names id → id ∈ C → id ∈ C') : Satisfiable C' b := by
  induction h with
  | literal => exact .literal
  | constant => exact .constant
  | skip => exact .skip
  | env => exact .env
  | service hid => exact .service (hC _ .head hid)
  | array _ ih => exact .array fun e he => ih e he fun id hn => hC id (.entry he hn)
  | closure _ ih => exact .closure fun p hp => ih p hp fun id hn => hC id (.param hp hn)
  | fallback hf _ ih => exact .fallback hf (ih fun id hn => hC id (.fallback hf hn))

end Binding

end Wiring
