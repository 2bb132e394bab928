import Wiring.Proofs.ServiceGraph.Resolve

/-!
# Which link a chain is collapsed to

The arguments of a planned service are those of the first links that can be satisfied, with an
exception: a link that leads back to an identifier still being visited is passed over, although that
identifier may be planned in the end. It then depends on the service by what is declared
(`collapsesTo_resolve`), and taking the link could have closed a cycle.

It need not depend on the service in the plan: what was visited for an array that is then given up
for its fallback keeps the arguments it was lowered with (`not_collapsesTo_references`).
-/

namespace Wiring.ServiceGraph

open Relation (ReflTransGen)

/-- The arguments of the service `id` are those of the first links of its bindings, where every link
that is taken is for a planned identifier and every planned identifier whose link is passed over
reaches `id`. -/
def CollapsesTo (p : ContainerPlan) (reaches : String → String → Prop) (id : String)
    (params : List (String × Binding)) (args : List (String × Argument)) : Prop :=
  ∃ o, LowersAll (ownFailure id) (Lowers fun t v => (v.failure? = none → p.has t = true) ∧
    (v.failure? ≠ none → p.has t = true → ReflTransGen reaches t id)) params (.ok args) o

/-- A report to be sent and printed, or else not at all, and a mailer that would mention the report.
There is no printer, so the report does without the mailer. -/
def unsentReport : ServiceMap where
  entries := [
    ("Report", .service {
      className := "Report"
      params := [("outputs", .array [(none, .service "Mailer" none),
        (none, .service "Printer" none)]
        (some (.literal .null)))] }),
    ("Mailer", .service {
      className := "Mailer"
      params := [("report", .service "Report" (some (.literal .null)))] })]
  nodup := by decide

/-- Whether an argument is a literal. -/
def isLiteral : Argument → Bool
  | .literal _ => true
  | _ => false

/-- All arguments in the plan of `unsentReport` are literals. -/
theorem args_unsentReport {c : Construction} (hc : c ∈ (resolve unsentReport).1.services) :
    ∀ arg ∈ c.args, ∃ v, arg.2 = .literal v := by
  have hall : (resolve unsentReport).1.services.all (·.args.all (isLiteral ·.2)) = true := by
    decide +kernel
  intro arg harg
  have h := List.all_eq_true.1 (List.all_eq_true.1 hall c hc) arg harg
  obtain ⟨name, a⟩ := arg
  cases a with
  | literal v => exact ⟨v, rfl⟩
  | constant | env | service | array | closure => cases h

/-- The plan of the report that is not sent refers to nothing. -/
theorem not_refers_unsentReport (id z : String) : ¬ (resolve unsentReport).1.Refers id z := by
  have haliases : (resolve unsentReport).1.aliases = [] := by decide +kernel
  intro h
  cases h with
  | service hc harg hz =>
    obtain ⟨v, hv⟩ := args_unsentReport hc _ harg
    rw [hv] at hz
    cases hz
  | «alias» ha =>
    rw [haliases] at ha
    cases ha

/-- The mailer passes over the planned report, which refers to nothing in the plan. -/
theorem not_collapsesTo_references : ¬ ∀ (services : ServiceMap) (c : Construction)
    (s : ServiceDescriptor), c ∈ (resolve services).1.services →
      services.get? c.id = some (.service s) →
        CollapsesTo (resolve services).1 (resolve services).1.Refers c.id s.params c.args := by
  intro h
  have hmailer : ((resolve unsentReport).1.service? "Mailer").any (!·.args.isEmpty) = true := by
    decide +kernel
  have hreport : (resolve unsentReport).1.has "Report" = true := by decide +kernel
  obtain ⟨c, hc, hargs⟩ := (Option.any_eq_true _ _).1 hmailer
  obtain ⟨hmem, hid⟩ := ContainerPlan.service?_mem hc
  obtain ⟨arg, harg⟩ := List.exists_mem_of_ne_nil c.args (by simpa using hargs)
  obtain ⟨v, hv⟩ := args_unsentReport hmem arg harg
  obtain ⟨o, hl⟩ := h unsentReport c _ hmem (by rw [hid]; rfl)
  -- the only parameter, whose head is the link for the report, comes to a literal
  obtain ⟨p, hp, o', hb⟩ := hl.mem_ok _ rfl arg harg
  obtain rfl := List.mem_singleton.1 hp
  rw [hv] at hb
  cases hb with
  | servicePassed hverdict hfail _ =>
    have hreach := hverdict.2 (by simp [hfail]) hreport
    rw [hid] at hreach
    rcases Relation.ReflTransGen.cases_head hreach with heq | ⟨z, hz, -⟩
    · exact absurd heq (by decide)
    · exact not_refers_unsentReport _ _ hz

/-- A planned service gets the first links that can be satisfied. A link for a planned identifier is
passed over only if by its declared dependencies that identifier needs the service. -/
theorem collapsesTo_resolve (services : ServiceMap) (c : Construction)
    (hc : c ∈ (resolve services).1.services) : ∃ s, services.get? c.id = some (.service s) ∧
      CollapsesTo (resolve services).1 (DependsOn services) c.id s.params c.args := by
  obtain ⟨s, args, he, hargs, hb⟩ := mem_services_resolve.1 hc
  obtain ⟨o, hl⟩ := ((walk_settled services).built _ _ hargs).2.1 s he
  refine ⟨s, he, o, ?_⟩
  rw [hb]
  have hplanned : ∀ t, (resolve services).1.has t = true ↔ t ∈ constructible services :=
    fun t => has_resolve.trans walk_built_iff
  refine hl.narrow fun t v hv _ => ⟨fun hok => (hplanned t).2 (hv.ok hok), fun herror ht => ?_⟩
  exact hv.error herror ((hplanned t).1 ht)

/-- The mailer does without the report, which it could not get while the report was being visited.
-/
theorem collapsesTo_resolve_unsentReport :
    ∃ c ∈ (resolve unsentReport).1.services, c.id = "Mailer" ∧
      ∃ s, unsentReport.get? c.id = some (.service s) ∧
        CollapsesTo (resolve unsentReport).1 (DependsOn unsentReport) c.id s.params c.args := by
  have hmailer : ((resolve unsentReport).1.service? "Mailer").isSome = true := by decide +kernel
  obtain ⟨c, hc⟩ := Option.isSome_iff_exists.1 hmailer
  obtain ⟨hmem, hid⟩ := ContainerPlan.service?_mem hc
  exact ⟨c, hmem, hid, collapsesTo_resolve unsentReport c hmem⟩

end Wiring.ServiceGraph
