import Mathlib.Data.List.Perm.Subperm
import Mathlib.Logic.Relation
import Wiring.Plan.Container
import Wiring.Proofs.Binding.Satisfiable
import Wiring.Proofs.Lookup

/-!
# References in a container plan

A plan refers from a service to every identifier that its arguments name, at any depth, and from an
alias to its target (`ContainerPlan.Refers`). Following aliases is a relation of its own
(`ContainerPlan.Leads`), with the aliases on the way: it passes none of them twice, so the bound in
`resolve?` cuts no chain short (`resolve?_eq_some_iff`). In terms of the lists of the plan alone, an
identifier resolves exactly if a walk from alias to alias, each the first of its name, comes to the
identifier of a service, whatever the length of the walk and whether or not it comes back to where
it was (`resolve?_walks`).

A plan that can be served refers to nothing outside of it and has no cycle of references
(`ContainerPlan.Coherent`).
-/

namespace Wiring

/-- Induction on an argument, with a hypothesis for each entry, each bound argument and the
fallback. -/
theorem Argument.recData {motive : Argument → Prop}
    (literal : ∀ v, motive (.literal v))
    (constant : ∀ r, motive (.constant r))
    (env : ∀ key f, (∀ a, f = some a → motive a) → motive (.env key f))
    (service : ∀ id, motive (.service id))
    (array : ∀ es, (∀ e ∈ es, motive e.2) → motive (.array es))
    (closure : ∀ s args, (∀ p ∈ args, motive p.2) → motive (.closure s args)) : ∀ a, motive a
  | .literal v => literal v
  | .constant r => constant r
  | .env key f => env key f fun a _ => recData literal constant env service array closure a
  | .service id => service id
  | .array es => array es fun e _ => recData literal constant env service array closure e.2
  | .closure s args => closure s args fun p _ =>
    recData literal constant env service array closure p.2
termination_by a => sizeOf a
decreasing_by
  · subst ‹_ = some _›; simp; omega
  · have h := sizeOf_snd_lt ‹_ ∈ _›; simp; omega
  · have h := sizeOf_snd_lt ‹_ ∈ _›; simp; omega

/-- An argument names an identifier, at any depth. -/
inductive Argument.Refers : Argument → String → Prop
  | service {id : String} : Refers (.service id) id
  | env {key id : String} {a : Argument} : Refers a id → Refers (.env key (some a)) id
  | entry {es : List (Option ArrayKey × Argument)} {e : Option ArrayKey × Argument} {id : String} :
      e ∈ es → Refers e.2 id → Refers (.array es) id
  | arg {source id : String} {args : List (String × Argument)} {p : String × Argument} : p ∈ args →
      Refers p.2 id → Refers (.closure source args) id

namespace ContainerPlan

open Relation (ReflTransGen TransGen)

/-- The reference graph of a plan. -/
inductive Refers (p : ContainerPlan) : String → String → Prop
  | service {c : Construction} {arg : String × Argument} {id : String} : c ∈ p.services →
      arg ∈ c.args → arg.2.Refers id → Refers p c.id id
  | alias {id target : String} : (id, target) ∈ p.aliases → Refers p id target

/-- From an identifier, the aliases of `trail` lead to a service. -/
inductive Leads (p : ContainerPlan) : String → List String → Construction → Prop
  | service {id : String} {c : Construction} : p.service? id = some c → Leads p id [] c
  | alias {id target : String} {trail : List String} {c : Construction} : p.service? id = none →
      p.target? id = some target → Leads p target trail c → Leads p id (id :: trail) c

/-- Every way from a planned identifier stays in the plan, leads to services and comes to an end. -/
structure Coherent (p : ContainerPlan) : Prop where
  resolves : ∀ id, p.has id = true → (p.resolve? id).isSome
  closed : ∀ id z, p.Refers id z → p.has z = true
  acyclic : ∀ id, ¬ TransGen p.Refers id id

/-- Of the aliases with the name `id`, the first stands for `target`. -/
def Renames (p : ContainerPlan) (id target : String) : Prop :=
  ∃ before after, p.aliases = before ++ (id, target) :: after ∧ ∀ a ∈ before, a.1 ≠ id

/-- An identifier is that of a service. -/
def IsService (p : ContainerPlan) (id : String) : Prop :=
  ∃ c ∈ p.services, c.id = id

/-- Of the services with the identifier `id`, the construction is the first. -/
def Serves (p : ContainerPlan) (id : String) (c : Construction) : Prop :=
  c.id = id ∧ ∃ before after, p.services = before ++ c :: after ∧ ∀ d ∈ before, d.id ≠ id

/-- A step of the walk: an alias that is not the identifier of a service as well. -/
def Passes (p : ContainerPlan) (id target : String) : Prop :=
  ¬ p.IsService id ∧ p.Renames id target

section
variable {p : ContainerPlan} {id target : String} {trail : List String} {c : Construction}

/-- A service that is found is in the plan and has the identifier. -/
theorem service?_mem (h : p.service? id = some c) : c ∈ p.services ∧ c.id = id :=
  ⟨List.mem_of_find?_eq_some h,
    eq_of_beq (List.find?_some (p := fun c : Construction => c.id == id) h)⟩

/-- The target that is found is that of an alias of the plan. -/
theorem target?_mem (h : p.target? id = some target) :
    (id, target) ∈ p.aliases :=
  mem_of_lookup h

/-- Aliases lead to a service of the plan. -/
theorem Leads.service_mem (h : p.Leads id trail c) : c ∈ p.services := by
  induction h with
  | service hs => exact (service?_mem hs).1
  | «alias» _ _ _ ih => exact ih

/-- The service at the end is the one with its identifier. -/
theorem Leads.service? (h : p.Leads id trail c) : p.service? c.id = some c := by
  induction h with
  | service hs => rwa [(service?_mem hs).2]
  | «alias» _ _ _ ih => exact ih

/-- The way to a service follows references. -/
theorem Leads.reaches (h : p.Leads id trail c) : ReflTransGen p.Refers id c.id := by
  induction h with
  | service hs => rw [(service?_mem hs).2]
  | «alias» _ ht _ ih => exact .head (.alias (target?_mem ht)) ih

/-- Every step of the way is determined. -/
theorem Leads.trail_unique {trail' : List String} {c' : Construction} (h : p.Leads id trail c)
    (h' : p.Leads id trail' c') : trail = trail' := by
  induction h generalizing trail' with
  | service hs =>
    cases h' with
    | service _ => rfl
    | «alias» hs' _ _ => rw [hs] at hs'; cases hs'
  | «alias» hs ht _ ih =>
    cases h' with
    | service hs' => rw [hs] at hs'; cases hs'
    | «alias» _ ht' hl =>
      rw [ht] at ht'
      cases ht'
      rw [ih hl]

/-- From each alias on the way there is a way that is no longer. -/
theorem Leads.of_mem (h : p.Leads id trail c) {a : String} (ha : a ∈ trail) :
    ∃ trail', p.Leads a trail' c ∧ trail'.length ≤ trail.length := by
  induction h with
  | service _ => cases ha
  | «alias» hs ht hl ih =>
    rcases List.mem_cons.1 ha with rfl | ha
    · exact ⟨_, .alias hs ht hl, Nat.le_refl _⟩
    · obtain ⟨trail', hl', hle⟩ := ih ha
      exact ⟨trail', hl', Nat.le_trans hle (Nat.le_succ _)⟩

/-- No alias is passed twice. -/
theorem Leads.nodup (h : p.Leads id trail c) : trail.Nodup := by
  induction h with
  | service _ => exact .nil
  | «alias» hs ht hl ih =>
    refine List.nodup_cons.2 ⟨fun hmem => ?_, ih⟩
    obtain ⟨trail', hl', hle⟩ := hl.of_mem hmem
    rw [hl'.trail_unique (.alias hs ht hl)] at hle
    simp only [List.length_cons] at hle
    omega

/-- What is passed are aliases of the plan. -/
theorem Leads.subset (h : p.Leads id trail c) : trail ⊆ p.aliases.map (·.1) := by
  induction h with
  | service _ => exact List.nil_subset _
  | «alias» _ ht _ ih =>
    exact List.cons_subset.2 ⟨List.mem_map.2 ⟨_, target?_mem ht, rfl⟩, ih⟩

/-- As many steps as there are aliases on the way are enough. -/
theorem Leads.follow (h : p.Leads id trail c) {n : Nat} (hn : trail.length ≤ n) :
    p.follow n id = some c := by
  induction h generalizing n with
  | service hs =>
    cases n with
    | zero => exact hs
    | succ n => simp only [ContainerPlan.follow, hs]
  | «alias» hs ht _ ih =>
    cases n with
    | zero => simp at hn
    | succ n =>
      simp only [List.length_cons] at hn
      simp only [ContainerPlan.follow, hs, ht, Option.bind_eq_bind, Option.bind_some]
      exact ih (by omega)

/-- What is found in a number of steps is what aliases lead to. -/
theorem leads_of_follow {n : Nat} (h : p.follow n id = some c) : ∃ trail, p.Leads id trail c := by
  induction n generalizing id with
  | zero => exact ⟨[], .service h⟩
  | succ n ih =>
    simp only [ContainerPlan.follow] at h
    split at h
    · next c' hc => exact ⟨[], .service (h ▸ hc)⟩
    · next hs =>
      obtain ⟨target, ht, hf⟩ := Option.bind_eq_some_iff.1 h
      obtain ⟨trail, hl⟩ := ih hf
      exact ⟨id :: trail, .alias hs ht hl⟩

/-- No way passes more aliases than there are. -/
theorem Leads.length_le (h : p.Leads id trail c) : trail.length ≤ p.aliases.length := by
  have hle := (h.nodup.subperm h.subset).length_le
  rwa [List.length_map] at hle

/-- An identifier resolves to a service exactly if aliases lead there, however many. -/
theorem resolve?_eq_some_iff : p.resolve? id = some c ↔ ∃ trail, p.Leads id trail c :=
  ⟨leads_of_follow, fun ⟨_, h⟩ => h.follow h.length_le⟩

/-! ## Walks along aliases -/

/-- The target that is found is that of the first alias with the name. -/
theorem target?_eq_some_iff : p.target? id = some target ↔ p.Renames id target := by
  rw [target?, List.lookup_eq_some_iff]
  simp only [Renames, bne_iff_ne, ne_comm]

/-- The service that is found is the first one with the identifier. -/
theorem service?_eq_some_iff : p.service? id = some c ↔ p.Serves id c := by
  rw [service?, List.find?_eq_some_iff_append]
  simp [Serves]

/-- No service is found exactly if none has the identifier. -/
theorem service?_eq_none_iff : p.service? id = none ↔ ¬ p.IsService id := by
  simp [service?, IsService]

/-- The identifier of the first service with it is one of a service. -/
theorem Serves.isService (h : p.Serves id c) : p.IsService id :=
  ⟨c, (service?_mem (service?_eq_some_iff.2 h)).1, h.1⟩

/-- The aliases on the way to a service are the steps of a walk. -/
theorem Leads.walk {trail : List String} (h : p.Leads id trail c) :
    ∃ last, ReflTransGen p.Passes id last ∧ p.Serves last c := by
  induction h with
  | service hs => exact ⟨_, .refl, service?_eq_some_iff.1 hs⟩
  | «alias» hs ht _ ih =>
    obtain ⟨last, hwalk, hlast⟩ := ih
    exact ⟨last, .head ⟨service?_eq_none_iff.1 hs, target?_eq_some_iff.1 ht⟩ hwalk, hlast⟩

/-- A walk to a service is a way that leads there. -/
theorem exists_leads_of_walk {last : String} (h : ReflTransGen p.Passes id last)
    (hlast : p.Serves last c) : ∃ trail, p.Leads id trail c := by
  induction h using ReflTransGen.head_induction_on with
  | refl => exact ⟨[], .service (service?_eq_some_iff.2 hlast)⟩
  | head hstep _ ih =>
    obtain ⟨trail, hl⟩ := ih
    exact ⟨_, .alias (service?_eq_none_iff.2 hstep.1) (target?_eq_some_iff.2 hstep.2) hl⟩

/-- A walk that goes on behind the identifier of a service has come to one before. -/
theorem exists_leads_of_renames {last : String} (h : ReflTransGen p.Renames id last)
    (hlast : p.IsService last) : ∃ trail c, p.Leads id trail c := by
  have hserves {id : String} (hid : p.IsService id) : ∃ trail c, p.Leads id trail c := by
    cases hs : p.service? id with
    | none => exact absurd hid (service?_eq_none_iff.1 hs)
    | some c => exact ⟨[], c, .service hs⟩
  induction h using ReflTransGen.head_induction_on with
  | refl => exact hserves hlast
  | @head id _ hstep _ ih =>
    by_cases hid : p.IsService id
    · exact hserves hid
    · obtain ⟨trail, c, hl⟩ := ih
      exact ⟨_, c, .alias (service?_eq_none_iff.2 hid) (target?_eq_some_iff.2 hstep) hl⟩

/-- With as many steps as there are aliases, or more, all ways that lead to a service are found. -/
theorem follow_eq_resolve? (p : ContainerPlan) (id : String) (more : Nat) :
    p.follow (p.aliases.length + more) id = p.resolve? id := by
  refine Option.ext fun c => ⟨fun h => resolve?_eq_some_iff.2 (leads_of_follow h), fun h => ?_⟩
  obtain ⟨trail, hl⟩ := resolve?_eq_some_iff.1 h
  exact hl.follow (Nat.le_trans hl.length_le (Nat.le_add_right _ _))

end

/-- An identifier resolves exactly if following the first alias of each name comes to the identifier
of a service; what it resolves to is the first service with the identifier that is come to first. As
many steps as there are aliases are enough: more of them find nothing else, on cycles neither. -/
theorem resolve?_walks (p : ContainerPlan) (id : String) :
    ((p.resolve? id).isSome = true ↔ ∃ last, ReflTransGen p.Renames id last ∧ p.IsService last) ∧
      (∀ c, p.resolve? id = some c ↔ ∃ last, ReflTransGen p.Passes id last ∧ p.Serves last c) ∧
      ∀ more, p.follow (p.aliases.length + more) id = p.resolve? id := by
  have hfirst (c : Construction) :
      p.resolve? id = some c ↔ ∃ last, ReflTransGen p.Passes id last ∧ p.Serves last c := by
    rw [resolve?_eq_some_iff]
    exact ⟨fun ⟨_, h⟩ => h.walk, fun ⟨_, hwalk, hlast⟩ => exists_leads_of_walk hwalk hlast⟩
  refine ⟨⟨fun h => ?_, fun ⟨last, hwalk, hlast⟩ => ?_⟩, hfirst, follow_eq_resolve? p id⟩
  · obtain ⟨c, hc⟩ := Option.isSome_iff_exists.1 h
    obtain ⟨last, hwalk, hlast⟩ := (hfirst c).1 hc
    exact ⟨last, ReflTransGen.mono (fun _ _ hstep => hstep.2) _ _ hwalk, hlast.isService⟩
  · obtain ⟨trail, c, hl⟩ := exists_leads_of_renames hwalk hlast
    rw [resolve?_eq_some_iff.2 ⟨trail, hl⟩]
    rfl

/-- A chain as long as the list of aliases is followed to its end; an alias in front of them that
closes a cycle hides the last link. -/
example :
    let p : ContainerPlan :=
      { services := [⟨"Smtp", "Smtp", none, true, .discovered, []⟩]
        aliases := [("Mail", "Mailer"), ("Mailer", "Sender"), ("Sender", "Smtp")] }
    let q : ContainerPlan := { p with aliases := ("Sender", "Mail") :: p.aliases }
    (p.resolve? "Mail").map (·.id) = some "Smtp" ∧ q.resolve? "Mail" = none := by
  decide

end ContainerPlan

end Wiring
