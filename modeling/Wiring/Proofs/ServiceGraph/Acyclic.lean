import Wiring.Proofs.Serve.Get
import Wiring.Proofs.ServiceGraph.Resolve

/-!
# The references of a resolved plan

Every success that the walk settles is grounded, so following the references of the plan comes to an
end (`wellFounded_refers`) without ever leaving the plan (`isSome_resolve?_of_refers`), although the
arguments of the services on a cycle were lowered under different stacks.
-/

namespace Wiring.ServiceGraph

open Relation (TransGen)

section
variable {services : ServiceMap} {id z : String}

/-- The references of a plan are those of what the walk settled. -/
theorem refers_resolve (h : (resolve services).1.Refers id z) : ∃ args,
    (walk services).settled.lookup id = some (.ok args) ∧ EntryRefers services id args z := by
  cases h with
  | service hc harg hz =>
    obtain ⟨s, args, he, hargs, hb⟩ := mem_services_resolve.1 hc
    rw [hb] at harg
    exact ⟨args, hargs, .service he harg hz⟩
  | «alias» ha =>
    obtain ⟨he, args, hargs⟩ := mem_aliases_resolve.1 ha
    exact ⟨args, hargs, .alias he⟩

/-- References lead from settled successes to settled successes. -/
theorem grounded_of_refers (h : (resolve services).1.Refers id z) :
    Grounded services (walk services) id ∧ Grounded services (walk services) z := by
  obtain ⟨args, hargs, hz⟩ := refers_resolve h
  have hg := ((walk_settled services).built id args hargs).2.2
  refine ⟨hg, ?_⟩
  cases hg with
  | intro hargs' hrefs =>
    rw [hargs] at hargs'
    cases hargs'
    exact hrefs z hz

/-- Following the references of a plan comes to an end, wherever it starts. -/
theorem wellFounded_refers (services : ServiceMap) :
    WellFounded fun z id => (resolve services).1.Refers id z := by
  have hacc : ∀ id, Grounded services (walk services) id →
      Acc (fun z id => (resolve services).1.Refers id z) id := by
    intro id h
    induction h with
    | @intro id args hargs _ ih =>
      refine ⟨_, fun z hz => ih z ?_⟩
      obtain ⟨args', hargs', hz'⟩ := refers_resolve hz
      rw [hargs] at hargs'
      cases hargs'
      exact hz'
  exact ⟨fun id => ⟨_, fun z hz => hacc z (grounded_of_refers hz).2⟩⟩

/-- No identifier of a plan that was resolved leads back to itself. -/
theorem not_transGen_refers_self (services : ServiceMap) (id : String) :
    ¬ TransGen (resolve services).1.Refers id id := by
  intro h
  exact (wellFounded_refers services).transGen.irrefl.irrefl id (Relation.transGen_swap.2 h)

/-- Aliases lead from a settled success to a service of the plan. -/
theorem leads_of_grounded (h : Grounded services (walk services) id) :
    ∃ trail c, (resolve services).1.Leads id trail c := by
  induction h with
  | @intro id args hargs _ ih =>
    have hc := ((walk_settled services).built id args hargs).1
    rw [← rule_constructible] at hc
    cases he : services.get? id with
    | none => exact absurd hc (not_mem_rule_none he)
    | some entry =>
      cases entry with
      | service s => exact ⟨[], _, .service (service?_resolve.2 ⟨s, args, he, hargs, rfl⟩)⟩
      | ambiguous candidates => exact absurd hc (not_mem_rule_ambiguous he)
      | «alias» target =>
        obtain ⟨trail, c, hl⟩ := ih target (.alias he)
        refine ⟨id :: trail, c, .alias ?_ (target?_resolve.2 ⟨he, args, hargs⟩) hl⟩
        cases hs : (resolve services).1.service? id with
        | none => rfl
        | some c' =>
          obtain ⟨s, _, hes, -⟩ := service?_resolve.1 hs
          rw [he] at hes
          cases hes

/-- What is planned resolves to a service of the plan. -/
theorem isSome_resolve?_of_has (h : (resolve services).1.has id = true) :
    ((resolve services).1.resolve? id).isSome := by
  obtain ⟨args, hargs⟩ := has_resolve.1 h
  obtain ⟨trail, c, hl⟩ := leads_of_grounded ((walk_settled services).built id args hargs).2.2
  exact Option.isSome_iff_exists.2 ⟨c, ContainerPlan.resolve?_eq_some_iff.2 ⟨trail, hl⟩⟩

/-- What is referred to is planned. -/
theorem has_of_refers (h : (resolve services).1.Refers id z) :
    (resolve services).1.has z = true := by
  rw [has_resolve]
  cases (grounded_of_refers h).2 with
  | intro hargs _ => exact ⟨_, hargs⟩

/-- Every plan can be served: it refers to nothing outside of it, and in no circle. -/
theorem coherent_resolve (services : ServiceMap) : (resolve services).1.Coherent :=
  ⟨fun _ => isSome_resolve?_of_has, fun _ _ => has_of_refers, not_transGen_refers_self services⟩

end

end Wiring.ServiceGraph
