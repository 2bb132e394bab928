import Wiring.Proofs.Artifact.Load
import Wiring.Proofs.Route.Depth

/-!
# Loading router artifacts

The artifact of a compiled router plan is loaded, and gives the plan back, exactly if no call stands
deeper in it than readers go down (`RouteTable.decode_artifactText`). Each segment of a template
with captures takes two levels, so there are routes whose artifact is written but never loaded
(`RouteTable.exists_decode_eq_error`).
-/

namespace Wiring

/-- Numbers of segments that are not lost in a text have 64 bits. -/
theorem RouteNode.numbered_of_exact {n : RouteNode} (h : Json.Exact n.toDatum) : n.Numbered := by
  induction n using recData with
  | node segment key literals captures call? hliterals hcaptures =>
    rw [toDatum, childField_eq, childField_eq, Json.exact_record, List.forall_mem_append,
      List.forall_mem_append, List.forall_mem_append, Json.exact_listField,
      Json.exact_listField] at h
    obtain ⟨⟨⟨hown, hexactL⟩, hexactC⟩, -⟩ := h
    have hsegment := Json.exact_int.1 (hown ("segment", .int segment) (.head _))
    exact .node (by omega) (fun n hn => hliterals n hn (hexactL n hn))
      fun n hn => hcaptures n hn (hexactC n hn)

namespace RouteTable

/-- No call stands deeper in an artifact than readers go down. -/
def Shallow (rs : Verb → Routes) : Prop :=
  ∀ verb keys call, Routes.call? (rs verb) keys = some call →
    Routes.depth keys + call.toDatum.nesting + 1 < Json.depthLimit

section
variable {config : Config} {classes : List ClassDescriptor} {services : ContainerPlan}
  {plan : RouterPlan} {diagnostics : List Diagnostic}

/-- A compiled plan can be read back from its tree. -/
theorem compile_regular (h : compile config classes services = .ok (plan, diagnostics))
    (hexact : Json.Exact plan.toDatum) : plan.Regular := by
  refine ⟨(compile_placed h).tries, fun t ht => RouteNode.numbered_of_exact ?_⟩
  have htries := Json.exact_record.1 hexact ("tries", _) (.tail _ (.head _))
  exact Json.exact_record.1 htries _ (List.mem_map_of_mem ht)

/-- A compiled plan is nested no deeper than readers go down exactly if no call stands deeper. -/
theorem compile_shallow (h : compile config classes services = .ok (plan, diagnostics)) :
    ∃ definitions, RouteDefinition.all config classes = .ok definitions ∧
      (Shallow (routes config classes services definitions) ↔
        plan.toDatum.nesting + 1 < Json.depthLimit) := by
  obtain ⟨definitions, hall, hnesting⟩ := nesting_compile_le h
  refine ⟨definitions, hall, ?_⟩
  have hplan : plan.toDatum.nesting + 1 < Json.depthLimit ↔ plan.toDatum.nesting ≤ 122 + 4 := by
    rw [Json.depthLimit]
    omega
  rw [hplan, hnesting, Shallow]
  refine forall_congr' fun verb => forall_congr' fun keys => forall_congr' fun call => ?_
  rw [Json.depthLimit]
  refine imp_congr_right fun _ => ?_
  omega

/-- The artifact of a compiled plan is read back if the plan is nested no deeper than readers go
down. -/
theorem decode_compile (h : compile config classes services = .ok (plan, diagnostics))
    (hexact : Json.Exact plan.toDatum) (p : Plans) (isPretty : Bool) (c : Config)
    (path : Disk.Path) :
    LoadedArtifacts.decode RouterPlan.ofDatum? path
        (({ p with router := plan } : Plans).artifactText isPretty c .router) =
      if plan.toDatum.nesting + 1 < Json.depthLimit then .ok (plan.mapLiterals .finite)
      else .error (.artifactInvalid path .content) := by
  refine (LoadedArtifacts.decode_render_within hexact path _ isPretty).trans ?_
  rw [RouterPlan.ofDatum?_within (compile_regular h hexact), Json.depthLimit]
  by_cases hle : plan.toDatum.nesting + 1 < 128
  · rw [if_pos hle, if_pos (by omega)]
  · rw [if_neg hle, if_neg (by omega)]

/-- The artifact of a compiled plan is read back if no call stands deeper in it than readers go
down, with `null` in place of each double that is none, and not at all otherwise. -/
theorem decode_artifactText (h : compile config classes services = .ok (plan, diagnostics))
    (hexact : Json.Exact plan.toDatum) :
    ∃ definitions, RouteDefinition.all config classes = .ok definitions ∧
      ∀ (p : Plans) (isPretty : Bool) (c : Config) (path : Disk.Path),
        let decoded := LoadedArtifacts.decode RouterPlan.ofDatum? path
          (({ p with router := plan } : Plans).artifactText isPretty c .router)
        (Shallow (routes config classes services definitions) →
          decoded = .ok (plan.mapLiterals .finite)) ∧
        (¬ Shallow (routes config classes services definitions) →
          decoded = .error (.artifactInvalid path .content)) := by
  obtain ⟨definitions, hall, hshallow⟩ := compile_shallow h
  refine ⟨definitions, hall, fun p isPretty c path => ?_⟩
  rw [hshallow, decode_compile h hexact]
  exact ⟨fun hle => if_pos hle, fun hgt => if_neg hgt⟩

end

/-- The routes of the users are written to a text from which they are read back. -/
theorem decode_artifactText_users : ∃ plan diagnostics definitions,
    compile {} [users] {} = .ok (plan, diagnostics) ∧ Json.Exact plan.toDatum ∧
      RouteDefinition.all {} [users] = .ok definitions ∧
        Shallow (routes {} [users] {} definitions) ∧
          LoadedArtifacts.decode RouterPlan.ofDatum? "router.json"
              (({ router := plan } : Plans).artifactText true {} .router) =
            .ok (plan.mapLiterals .finite) := by
  have hcheck : ((compile {} [users] {}).toOption.any fun compiled =>
      Json.isPlain compiled.1.toDatum &&
        decide (compiled.1.toDatum.nesting + 1 < Json.depthLimit)) = true := by
    decide +kernel
  obtain ⟨⟨plan, diagnostics⟩, hcompiled, hcheck⟩ := (Option.any_eq_true ..).1 hcheck
  have hcompiled := Result.toOption_eq_some.1 hcompiled
  obtain ⟨hplain, hnesting⟩ := Bool.and_eq_true_iff.1 hcheck
  have hexact := Json.exact_of_isPlain hplain
  obtain ⟨definitions, hall, hdecode⟩ := decode_artifactText hcompiled hexact
  obtain ⟨definitions', hall', hshallow⟩ := compile_shallow hcompiled
  obtain rfl := Except.ok.inj (hall.symm.trans hall')
  have hfits := hshallow.2 (of_decide_eq_true hnesting)
  exact ⟨plan, diagnostics, definitions, hcompiled, hexact, hall, hfits,
    (hdecode {} true {} "router.json").1 hfits⟩

/-- A page below sixty-one segments, the first of them captured. -/
def deepPage : ClassDescriptor where
  name := "app::Page"
  kind := .concrete
  methods := [
    { name := "show", isStatic := true
      annotations := [.route .get ("/{id}" ++ String.join (List.replicate 60 "/x")) [] none] }]

/-- There are artifacts of compiled plans that are written and cannot be read back. -/
theorem exists_decode_eq_error : ∃ plan diagnostics,
    compile {} [deepPage] {} = .ok (plan, diagnostics) ∧ Json.Exact plan.toDatum ∧
      ∀ isPretty c path, LoadedArtifacts.decode RouterPlan.ofDatum? path
          (({ router := plan } : Plans).artifactText isPretty c .router) =
        .error (.artifactInvalid path .content) := by
  have hcheck : ((compile {} [deepPage] {}).toOption.any fun compiled =>
      Json.isPlain compiled.1.toDatum &&
        decide (¬ compiled.1.toDatum.nesting + 1 < Json.depthLimit)) = true := by
    decide +kernel
  obtain ⟨⟨plan, diagnostics⟩, hcompiled, hcheck⟩ := (Option.any_eq_true ..).1 hcheck
  have hcompiled := Result.toOption_eq_some.1 hcompiled
  obtain ⟨hplain, hnesting⟩ := Bool.and_eq_true_iff.1 hcheck
  have hexact := Json.exact_of_isPlain hplain
  refine ⟨plan, diagnostics, hcompiled, hexact, fun isPretty c path => ?_⟩
  rw [decode_compile hcompiled hexact {}, if_neg (of_decide_eq_true hnesting)]

end RouteTable

end Wiring
