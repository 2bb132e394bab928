import Mathlib
import Wiring.Proofs.Binding.Satisfiable
import Wiring.Service.Entry

/-!
# What can be built

`constructible services` is the least set of identifiers that is closed under the rules of the map:
a service can be built when all its bindings can be satisfied, an alias when its target can be
built. `avoiding services T` is the same without the identifiers of `T`; it is what a walk can find
out while `T` is on its stack.

Two facts carry the walk's verdicts. An identifier that could only be built out of itself cannot be
built (`not_mem_avoiding`), which settles what fails in its own frame. One that can be built, but
not while `T` is avoided, depends on a member of `T` (`dependsOn_of_not_avoiding`).
-/

namespace Wiring.ServiceGraph

/-- The declared dependencies of an identifier: what the service links of its bindings name, at any
depth, or the target of an alias. -/
inductive DependsOn (services : ServiceMap) : String → String → Prop
  | service {id id' : String} {s : ServiceDescriptor} {p : String × Binding} :
      services.get? id = some (.service s) → p ∈ s.params → p.2.Names id' →
      DependsOn services id id'
  | alias {id target : String} : services.get? id = some (.alias target) →
      DependsOn services id target

/-- The identifiers that can be built out of those of `C` in one step. -/
def rule (services : ServiceMap) (C : Set String) : Set String :=
  {id | match services.get? id with
    | some (.service s) => ∀ p ∈ s.params, p.2.Satisfiable C
    | some (.alias target) => target ∈ C
    | some (.ambiguous _) | none => False}

section
variable {services : ServiceMap} {C C' T : Set String} {id : String}

/-- A service can be built if all its parameters can be satisfied. -/
theorem mem_rule_service {s : ServiceDescriptor} (h : services.get? id = some (.service s)) :
    id ∈ rule services C ↔ ∀ p ∈ s.params, p.2.Satisfiable C := by
  simp [rule, h]

/-- An alias can be built if its target can. -/
theorem mem_rule_alias {target : String} (h : services.get? id = some (.alias target)) :
    id ∈ rule services C ↔ target ∈ C := by
  simp [rule, h]

/-- What is not registered cannot be built. -/
theorem not_mem_rule_none (h : services.get? id = none) : id ∉ rule services C := by
  simp [rule, h]

/-- What is ambiguous cannot be built. -/
theorem not_mem_rule_ambiguous {candidates : List String}
    (h : services.get? id = some (.ambiguous candidates)) : id ∉ rule services C := by
  simp [rule, h]

/-- Only the declared dependencies of an identifier matter to whether it can be built. -/
theorem rule_local (h : id ∈ rule services C)
    (hC : ∀ z, DependsOn services id z → z ∈ C → z ∈ C') : id ∈ rule services C' := by
  cases he : services.get? id with
  | none => exact absurd h (not_mem_rule_none he)
  | some entry =>
    cases entry with
    | service s =>
      rw [mem_rule_service he] at h ⊢
      exact fun p hp => (h p hp).local fun z hz => hC z (.service he hp hz)
    | ambiguous candidates => exact absurd h (not_mem_rule_ambiguous he)
    | «alias» target =>
      rw [mem_rule_alias he] at h ⊢
      exact hC target (.alias he) h

/-- More can be built out of more. -/
theorem rule_mono (h : C ⊆ C') : rule services C ⊆ rule services C' :=
  fun _ hid => rule_local hid fun _ _ hz => h hz

/-- The rules of a map as a monotone operator on sets of identifiers. -/
def rules (services : ServiceMap) : Set String →o Set String :=
  ⟨rule services, fun _ _ h => rule_mono h⟩

/-- The rules of a map, with the identifiers of `T` left out. -/
def rulesWithout (services : ServiceMap) (T : Set String) : Set String →o Set String :=
  ⟨fun C => rule services C \ T, fun _ _ h => Set.sdiff_subset_sdiff_left (rule_mono h)⟩

/-- The identifiers that can be built: the least fixed point of the rules. -/
def constructible (services : ServiceMap) : Set String :=
  OrderHom.lfp (rules services)

/-- The identifiers that can be built without those of `T`. -/
def avoiding (services : ServiceMap) (T : Set String) : Set String :=
  OrderHom.lfp (rulesWithout services T)

/-- What can be built out of what can be built can be built. -/
theorem rule_constructible : rule services (constructible services) = constructible services :=
  OrderHom.map_lfp (rules services)

/-- Nothing more can be built without some identifiers than what can be. -/
theorem rule_avoiding : rule services (avoiding services T) \ T = avoiding services T :=
  OrderHom.map_lfp (rulesWithout services T)

/-- Without leaving anything out all can be built that can be. -/
theorem avoiding_empty : avoiding services ∅ = constructible services := by
  have h : rulesWithout services ∅ = rules services :=
    OrderHom.ext _ _ (funext fun _ => Set.sdiff_empty)
  rw [avoiding, h, constructible]

/-- The more is avoided, the less can be built. -/
theorem avoiding_anti {T' : Set String} (h : T ⊆ T') :
    avoiding services T' ⊆ avoiding services T := by
  refine OrderHom.lfp_le (rulesWithout services T') ?_
  calc rule services (avoiding services T) \ T'
      ⊆ rule services (avoiding services T) \ T := Set.sdiff_subset_sdiff_right h
    _ = avoiding services T := rule_avoiding

/-- Leaving out an identifier that can only be built out of itself makes no difference. -/
theorem avoiding_insert (h : id ∉ rule services (avoiding services (insert id T))) :
    avoiding services (insert id T) = avoiding services T := by
  refine (avoiding_anti (Set.subset_insert id T)).antisymm ?_
  -- what can be built without `id` is already closed under the rules that only leave out `T`
  refine OrderHom.lfp_le (rulesWithout services T) fun z hz => ?_
  rw [← rule_avoiding]
  refine ⟨hz.1, ?_⟩
  rintro (rfl | hzT)
  · exact h hz.1
  · exact hz.2 hzT

/-- An identifier that can only be built out of itself cannot be built. -/
theorem not_mem_avoiding (h : id ∉ rule services (avoiding services (insert id T))) :
    id ∉ avoiding services T := by
  rw [← avoiding_insert h, ← rule_avoiding]
  exact fun hid => hid.2 (Set.mem_insert _ _)

/-- What can be built, but not without the identifiers of `T`, depends on one of these. -/
theorem dependsOn_of_not_avoiding (h : id ∈ constructible services)
    (hn : id ∉ avoiding services T) : ∃ u ∈ T, Relation.ReflTransGen (DependsOn services) id u := by
  let M : Set String :=
    {z | z ∈ avoiding services T ∨ ∃ u ∈ T, Relation.ReflTransGen (DependsOn services) z u}
  have hM : constructible services ⊆ M := by
    refine OrderHom.lfp_le (rules services) fun z hz => ?_
    by_cases hr : ∃ u ∈ T, Relation.ReflTransGen (DependsOn services) z u
    · exact .inr hr
    · refine .inl (rule_avoiding ▸
        ⟨rule_local hz fun y hy hyM => ?_, fun hzT => hr ⟨z, hzT, .refl⟩⟩)
      rcases hyM with hy' | ⟨u, hu, hyu⟩
      · exact hy'
      · exact absurd ⟨u, hu, .head hy hyu⟩ hr
  exact (hM h).resolve_left hn

end

end Wiring.ServiceGraph
