import Wiring.Proofs.ServiceGraph.Report

/-!
# What a report blames

While a cycle is open a link may fail that would succeed later, so a failure blames the right
parameter only if it is settled. Then nothing below its frame was needed, and its identifier cannot
be built; leaving out such an identifier makes no difference to the others (`avoiding_insert`). So
the visits in the frame have succeeded for exactly what can be built (`FrameResult.exact`), although
some of them came back to the identifier itself.

What is reported as missing is therefore missing from the plan: the parameter is the first that the
plan does not satisfy, and the dependency or target that is named is not planned
(`blames_of_mem_resolve`).
-/

namespace Wiring.ServiceGraph

/-- The first parameter that the identifiers of `C` do not satisfy, with an identifier that is not
in `C` although a link of the parameter's binding is for it. -/
def FirstLacking (C : Set String) (params : List (String × Binding)) (param needed : String) :
    Prop :=
  ∃ before b after, params = before ++ (param, b) :: after ∧ (∀ p ∈ before, p.2.Satisfiable C) ∧
    ¬ b.Satisfiable C ∧ b.Names needed ∧ needed ∉ C

/-- What a failure says is missing for an identifier is what the identifiers of `C` lack. A cycle
says nothing of the kind. -/
def Blames (services : ServiceMap) (C : Set String) (id : String) : Failure → Prop
  | .dependency param needed =>
    ∃ s, services.get? id = some (.service s) ∧ FirstLacking C s.params param needed
  | .aliasTarget target => services.get? id = some (.alias target) ∧ target ∉ C
  | .notRegistered | .ambiguous | .cycle _ => True

section
variable {services : ServiceMap} {stack : List String} {id : String} {o : Option Nat} {f : Failure}
  {r : Except Failure (List (String × Argument))}

/-- In a frame that fails for good, the visits that succeed are those of what can be built. -/
theorem FrameResult.exact
    (h : FrameResult services (Verdict services (stack ++ [id]) fun _ => True) id r o)
    (hr : r = .error f) (ho : o.filter (· < stack.length) = none) :
    FrameResult services (fun z v => v.failure? = none ↔ z ∈ constructible services) id r o := by
  have habove : above (stack ++ [id]) o ⊆ {id} := by
    refine (above_push stack id o).trans ?_
    rw [ho, above_none, insert_empty_eq]
  have h' : FrameResult services (fun z v => (v.failure? = none → z ∈ constructible services) ∧
      (v.failure? ≠ none → z ∉ avoiding services {id})) id r o := by
    refine h.narrow fun z v hv hcov => ⟨fun hok => (hv.ok hok).1, fun hfail hz => ?_⟩
    exact hv.error hfail (avoiding_anti ((above_mono hcov).trans habove) hz)
  have hrule : id ∉ rule services (avoiding services {id}) :=
    h'.not_mem_rule (fun _ _ hv => hv.2) hr
  have hsame : avoiding services {id} = constructible services := by
    rw [← insert_empty_eq, avoiding_insert, avoiding_empty]
    rwa [insert_empty_eq]
  rw [hsame] at h'
  exact h'.narrow fun z v hv _ => ⟨hv.1, fun hz => not_not.1 fun hfail => hv.2 hfail hz⟩

/-- Exact verdicts put the blame where it belongs. -/
theorem FrameResult.blames
    (h : FrameResult services (fun z v => v.failure? = none ↔ z ∈ constructible services) id r o)
    (hr : r = .error f) : Blames services (constructible services) id f := by
  cases h with
  | «alias» he hv =>
    obtain ⟨path, -, rfl⟩ | ⟨hfail, rfl⟩ := aliasResult_eq_error hr
    · trivial
    · exact ⟨he, fun ht => hfail (hv.2 ht)⟩
  | @service s _ _ he hl =>
    obtain ⟨before, ⟨param, b⟩, after, hparams, hbefore, blame, o', hb, rfl⟩ :=
      hl.exists_first_error f hr
    obtain ⟨path, -, -, hown⟩ | hown := ownFailure_cases id param blame
    · rw [hown]
      trivial
    · rw [hown]
      obtain ⟨hnames, v, hv, hfail⟩ := hb.blamed
      refine ⟨s, he, before, b, after, hparams, fun p hp => ?_, fun hsat => ?_, hnames,
        fun hz => ?_⟩
      · obtain ⟨a, o'', hp'⟩ := hbefore p hp
        exact hp'.satisfiable fun z v hv hok => hv.1 hok
      · exact not_lowers_of_satisfiable (fun z v hv hfail hz => hfail (hv.2 hz)) hsat blame o' hb
      · rw [hv.2 hz] at hfail
        cases hfail

end

/-- Settled failures blame what cannot be built. -/
theorem extends_blames (services : ServiceMap) :
    Extends services (fun w => ∀ id f, w.settled.lookup id = some (.error f) →
      Blames services (constructible services) id f) fun _ _ _ => True := by
  refine .of_close (fun _ h => h) (fun _ _ _ h => h) fun w stack id r o hr h _ z f hz => ?_
  obtain hz | ⟨rfl, hf, ho⟩ := of_lookup_close_eq_error hz
  · exact h z f hz
  · exact (hr.exact hf ho).blames hf

section
variable {services : ServiceMap} {d : Diagnostic}

/-- Every diagnostic is about an identifier that is not planned and blames what the plan lacks. -/
theorem exists_failure_of_mem_resolve (hd : d ∈ (resolve services).2) :
    d.subject ∉ planned services ∧ ∃ f, f.finding? = some d.finding ∧
      (walk services).settled.lookup d.subject = some (.error f) ∧
      Blames services (planned services) d.subject f := by
  obtain ⟨f, finding, hset, hfinding, hd⟩ := ((walk_reported services).mem_iff d).1 hd
  have hfinding' : d.finding = finding := by rw [hd]; rfl
  rw [planned_eq]
  refine ⟨(walk_settled services).failed _ f hset, f, hfinding'.symm ▸ hfinding, hset, ?_⟩
  exact (extends_blames services).walk nofun _ f hset

/-- A missing dependency is reported of a service that is not planned, for the first parameter that
the plan does not satisfy and with an identifier that this parameter asks for and that is not
planned. A missing target is reported of an alias, neither of which is planned. -/
theorem blames_of_mem_resolve (hd : d ∈ (resolve services).2) :
    (∀ param needed, d.finding = .missingDependency param needed → d.subject ∉ planned services ∧
      ∃ s, services.get? d.subject = some (.service s) ∧
        FirstLacking (planned services) s.params param needed) ∧
    ∀ target, d.finding = .missingTarget target → d.subject ∉ planned services ∧
      services.get? d.subject = some (.alias target) ∧ target ∉ planned services := by
  obtain ⟨hno, f, hfinding, -, hblames⟩ := exists_failure_of_mem_resolve hd
  refine ⟨fun param needed h => ⟨hno, ?_⟩, fun target h => ⟨hno, ?_⟩⟩
  · rw [h] at hfinding
    cases f <;> cases hfinding
    exact hblames
  · rw [h] at hfinding
    cases f <;> cases hfinding
    exact hblames

end

/-- A desk of a clerk, who would use a phone that only the clerk can answer, or none, and an archive
that there is not. -/
def frontDesk : ServiceMap where
  entries := [
    ("Desk", .alias "Clerk"),
    ("Clerk", .service {
      className := "Clerk"
      params := [("phone", .service "Phone" (some (.literal .null))),
        ("archive", .service "Archive" none)] }),
    ("Phone", .service { className := "Phone", params := [("clerk", .service "Clerk" none)] })]
  nodup := by decide

/-- The front desk is reported for the first parameter that cannot be satisfied. -/
theorem blames_of_mem_resolve_frontDesk :
    let clerk := Diagnostic.error "Clerk" (.missingDependency "archive" "Archive")
    let desk := Diagnostic.error "Desk" (.missingTarget "Clerk")
    (clerk ∈ (resolve frontDesk).2 ∧ ∃ s, frontDesk.get? "Clerk" = some (.service s) ∧
        FirstLacking (planned frontDesk) s.params "archive" "Archive") ∧
      desk ∈ (resolve frontDesk).2 ∧ "Desk" ∉ planned frontDesk ∧ "Clerk" ∉ planned frontDesk := by
  intro clerk desk
  have hclerk : clerk ∈ (resolve frontDesk).2 := by decide +kernel
  have hdesk : desk ∈ (resolve frontDesk).2 := by decide +kernel
  obtain ⟨-, hlacking⟩ := (blames_of_mem_resolve hclerk).1 "archive" "Archive" rfl
  obtain ⟨hno, -, htarget⟩ := (blames_of_mem_resolve hdesk).2 "Clerk" rfl
  exact ⟨⟨hclerk, hlacking⟩, hdesk, hno, htarget⟩

end Wiring.ServiceGraph
