import Wiring.Proofs.ServiceGraph.Invariant

/-!
# What is planned

With nothing on the stack no cycle is open and nothing waits: once an identifier that can be built
was visited, it is settled (`visitAll_built`). The walk therefore ends with exactly the identifiers
settled that can be built (`walk_built_iff`), and the plan holds what is settled under what is
registered (`service?_resolve`, `target?_resolve`). That an identifier is planned is a property of
the rules of the map alone, whatever the order in which they were registered
(`has_resolve_iff_mem_constructible`).
-/

namespace Wiring.ServiceGraph

/-! ## The run -/

section
variable {services : ServiceMap} {w : Walk} {id : String}

/-- The invariant holds at the start. -/
theorem Inv.empty (services : ServiceMap) : Inv services [] [] {} where
  settled := by constructor <;> (intro _ _ h; cases h)
  unsettled _ h := by cases h
  waiting _ h := by cases h
  added := ⟨[], rfl, trivial, fun _ h => by cases h⟩
  frame _ _ h := by cases h

/-- Nothing waits when nothing is on the stack. -/
theorem Inv.pending_eq_nil (h : Inv services [] [] w) : w.pending = [] :=
  List.eq_nil_iff_forall_not_mem.2 fun e he => absurd (h.waiting e he).1 (Nat.not_lt_zero _)

/-- With nothing on the stack a visit settles what can be built. -/
theorem visit_built (id : String) (h : Inv services [] [] w) :
    let w' := (visit services services.size [] id w).2
    Inv services [] [] w' ∧ (∀ z r, w.settled.lookup z = some r → w'.settled.lookup z = some r) ∧
      (id ∈ constructible services → w'.Built id) := by
  obtain ⟨hI, hs, hv⟩ := visit_keeps (.empty (Nat.le_refl services.size)) (by simp) w h
  refine ⟨hI, hs.settled, fun hid => ?_⟩
  have hok : (visit services services.size [] id w).1.failure? = none := by
    by_contra herror
    refine hv.error herror ?_
    have habove : above [] (visit services services.size [] id w).1.open? = ∅ := by simp [above]
    rwa [habove, avoiding_empty]
  rcases (hv.ok hok).2 with hbuilt | ⟨e, he, -⟩
  · exact hbuilt
  · rw [hI.pending_eq_nil] at he
    cases he

/-- Visits one after another keep the invariant and settle what can be built. -/
theorem visitAll_built (ids : List String) (h : Inv services [] [] w) :
    let w' := ids.foldl (fun w id => (visit services services.size [] id w).2) w
    Inv services [] [] w' ∧ (∀ z r, w.settled.lookup z = some r → w'.settled.lookup z = some r) ∧
      ∀ id ∈ ids, id ∈ constructible services → w'.Built id := by
  induction ids generalizing w with
  | nil => exact ⟨h, fun _ _ hr => hr, fun _ hid => by cases hid⟩
  | cons id rest ih =>
    obtain ⟨hI, hs, hb⟩ := visit_built id h
    obtain ⟨hI', hs', hb'⟩ := ih hI
    refine ⟨hI', fun z r hr => hs' z r (hs z r hr), fun z hz hc => ?_⟩
    rcases List.mem_cons.1 hz with rfl | hz
    · obtain ⟨args, hargs⟩ := hb hc
      exact ⟨args, hs' z _ hargs⟩
    · exact hb' z hz hc

/-- What can be built is registered. -/
theorem mem_ids_of_mem_constructible (h : id ∈ constructible services) : id ∈ services.ids := by
  rw [ServiceMap.mem_ids_iff]
  cases he : services.get? id with
  | some entry => rfl
  | none =>
    rw [← rule_constructible] at h
    exact absurd h (not_mem_rule_none he)

/-- The results of the whole walk are final. -/
theorem walk_settled (services : ServiceMap) : Settled services (walk services) :=
  (visitAll_built services.ids (Inv.empty services)).1.settled

/-- The walk settles as successes exactly what can be built. -/
theorem walk_built_iff : (walk services).Built id ↔ id ∈ constructible services := by
  constructor
  · rintro ⟨args, hargs⟩
    exact ((walk_settled services).built id args hargs).1
  · intro hid
    exact (visitAll_built services.ids (Inv.empty services)).2.2 id
      (mem_ids_of_mem_constructible hid) hid

end

/-! ## The plan -/

section
variable {services : ServiceMap} {id : String}

/-- An identifier counts as built if it is settled as a success. -/
theorem isBuilt_iff {w : Walk} : isBuilt w id = true ↔ w.Built id := by
  rw [isBuilt, Walk.Built]
  cases w.settled.lookup id with
  | none => simp
  | some r => cases r <;> simp

/-- The construction of a service from the arguments that its parameters were lowered to. -/
def built (id : String) (s : ServiceDescriptor) (args : List (String × Argument)) : Construction :=
  ⟨id, s.className, s.factory?, s.singleton, s.origin, args⟩

/-- A service is constructed with the arguments that were settled for it. -/
theorem construction?_eq_some_iff {w : Walk} {s : ServiceDescriptor} {c : Construction} :
    construction? w id s = some c ↔
      ∃ args, w.settled.lookup id = some (.ok args) ∧ c = built id s args := by
  rw [construction?]
  cases w.settled.lookup id with
  | none => simp
  | some r => cases r <;> simp [built, eq_comm]

/-- The services of the plan are those of the map that were settled, with their arguments. -/
theorem mem_services_resolve {c : Construction} : c ∈ (resolve services).1.services ↔
    ∃ s args, services.get? c.id = some (.service s) ∧
      (walk services).settled.lookup c.id = some (.ok args) ∧ c = built c.id s args := by
  simp only [resolve, List.mem_filterMap]
  constructor
  · rintro ⟨⟨id, entry⟩, he, hc⟩
    cases entry with
    | service s =>
      obtain ⟨args, hargs, rfl⟩ := construction?_eq_some_iff.1 hc
      exact ⟨s, args, ServiceMap.get?_eq_some_iff.2 he, hargs, rfl⟩
    | ambiguous candidates | «alias» target => cases hc
  · rintro ⟨s, args, he, hargs, hc⟩
    exact ⟨_, ServiceMap.get?_eq_some_iff.1 he, construction?_eq_some_iff.2 ⟨args, hargs, hc⟩⟩

/-- The aliases of the plan are those of the map that were settled. -/
theorem mem_aliases_resolve {target : String} : (id, target) ∈ (resolve services).1.aliases ↔
    services.get? id = some (.alias target) ∧ (walk services).Built id := by
  simp only [resolve, List.mem_filterMap]
  constructor
  · rintro ⟨⟨id', entry⟩, he, ht⟩
    cases entry with
    | service s | ambiguous candidates => cases ht
    | «alias» target' =>
      simp only [Option.ite_none_right_eq_some, Option.some.injEq, Prod.mk.injEq] at ht
      obtain ⟨hb, rfl, rfl⟩ := ht
      exact ⟨ServiceMap.get?_eq_some_iff.2 he, isBuilt_iff.1 hb⟩
  · rintro ⟨he, hb⟩
    exact ⟨_, ServiceMap.get?_eq_some_iff.1 he, by simp [isBuilt_iff.2 hb]⟩

/-- Each identifier of the plan has one construction, that of its entry in the map. -/
theorem service?_resolve {c : Construction} : (resolve services).1.service? id = some c ↔
    ∃ s args, services.get? id = some (.service s) ∧
      (walk services).settled.lookup id = some (.ok args) ∧ c = built id s args := by
  have hmem : ∀ c, (resolve services).1.service? id = some c →
      ∃ s args, services.get? id = some (.service s) ∧
        (walk services).settled.lookup id = some (.ok args) ∧ c = built id s args := by
    intro c hc
    obtain ⟨hmem, rfl⟩ := ContainerPlan.service?_mem hc
    exact mem_services_resolve.1 hmem
  refine ⟨hmem c, fun ⟨s, args, he, hargs, hb⟩ => ?_⟩
  cases hc : (resolve services).1.service? id with
  | none =>
    have hin : built id s args ∈ (resolve services).1.services :=
      mem_services_resolve.2 ⟨s, args, he, hargs, rfl⟩
    have hno := List.find?_eq_none.1 hc _ hin
    simp [built] at hno
  | some c' =>
    obtain ⟨s', args', he', hargs', rfl⟩ := hmem c' hc
    rw [he] at he'
    rw [hargs] at hargs'
    cases he'
    cases hargs'
    rw [hb]

/-- The aliases of the plan are those of the map that are built. -/
theorem target?_resolve {target : String} : (resolve services).1.target? id = some target ↔
    services.get? id = some (.alias target) ∧ (walk services).Built id := by
  refine ⟨fun ht => mem_aliases_resolve.1 (ContainerPlan.target?_mem ht), fun h => ?_⟩
  cases ht : (resolve services).1.target? id with
  | none =>
    have hno := List.lookup_eq_none_iff.1 ht _ (mem_aliases_resolve.2 h)
    simp at hno
  | some t =>
    have he := (mem_aliases_resolve.1 (ContainerPlan.target?_mem ht)).1
    rw [h.1] at he
    cases he
    rfl

/-- An identifier is in the plan if the walk settled it as one that can be built. -/
theorem has_resolve : (resolve services).1.has id = true ↔ (walk services).Built id := by
  simp only [ContainerPlan.has, Bool.or_eq_true, Option.isSome_iff_exists]
  constructor
  · rintro (⟨c, hc⟩ | ⟨target, ht⟩)
    · obtain ⟨_, args, -, hargs, -⟩ := service?_resolve.1 hc
      exact ⟨args, hargs⟩
    · exact (target?_resolve.1 ht).2
  · intro hb
    have hc := walk_built_iff.1 hb
    obtain ⟨args, hargs⟩ := hb
    cases he : services.get? id with
    | none =>
      rw [← rule_constructible] at hc
      exact absurd hc (not_mem_rule_none he)
    | some entry =>
      cases entry with
      | service s => exact .inl ⟨_, service?_resolve.2 ⟨s, args, he, hargs, rfl⟩⟩
      | ambiguous candidates =>
        rw [← rule_constructible] at hc
        exact absurd hc (not_mem_rule_ambiguous he)
      | «alias» target => exact .inr ⟨_, target?_resolve.2 ⟨he, args, hargs⟩⟩

/-- The identifiers of the plan of a map. -/
def planned (services : ServiceMap) : Set String :=
  {id | (resolve services).1.has id = true}

/-- What is planned is what can be built. -/
theorem planned_eq : planned services = constructible services :=
  Set.ext fun _ => has_resolve.trans walk_built_iff

/-- The rules of a map do not depend on the order of its entries. -/
theorem constructible_perm {other : ServiceMap} (h : other.entries.Perm services.entries) :
    constructible other = constructible services := by
  have hget : ∀ id, other.get? id = services.get? id := by
    intro id
    ext entry
    rw [ServiceMap.get?_eq_some_iff, ServiceMap.get?_eq_some_iff, h.mem_iff]
  have hrules : rules other = rules services := by
    ext C id
    change id ∈ rule other C ↔ id ∈ rule services C
    simp only [rule, hget]
  rw [constructible, hrules, constructible]

/-- Resolving a map comes to an end, not cut short by the bound on entered identifiers, and plans
exactly what can be built by the rules of the map, in whatever order it was registered. -/
theorem has_resolve_iff_mem_constructible (services : ServiceMap) :
    (∀ room, services.size ≤ room → visit services room [] = visit services services.size []) ∧
      (∀ id, (resolve services).1.has id = true ↔ id ∈ constructible services) ∧
      ∀ other : ServiceMap, other.entries.Perm services.entries →
        ∀ id, (resolve other).1.has id = (resolve services).1.has id := by
  have hhas : ∀ (m : ServiceMap) id, (resolve m).1.has id = true ↔ id ∈ constructible m :=
    fun m id => has_resolve.trans walk_built_iff
  refine ⟨fun room hroom => ?_, hhas services, fun other hperm id => ?_⟩
  · exact (visit_room (.empty (Nat.le_refl _)) hroom).symm
  · rw [Bool.eq_iff_iff, hhas, hhas, constructible_perm hperm]

end

/-- A port and its adapter, which would log to something that would itself take the port. -/
def loggedPort : ServiceMap where
  entries := [
    ("Port", .alias "Adapter"),
    ("Adapter", .service {
      className := "Adapter", params := [("log", .service "Logger" (some (.literal .null)))] }),
    ("Logger", .service {
      className := "Logger", params := [("port", .service "Port" (some (.literal .null)))] })]
  nodup := by decide

/-- The map of the port gives the same plan in another order and with more room. -/
theorem has_resolve_loggedPort : 3 ≤ 5 ∧ loggedPort.entries.reverse.Perm loggedPort.entries ∧
    visit loggedPort 5 [] = visit loggedPort 3 [] ∧
    (resolve ⟨loggedPort.entries.reverse, by decide⟩).1.has "Port" =
      (resolve loggedPort).1.has "Port" :=
  ⟨by decide, List.reverse_perm _,
    (has_resolve_iff_mem_constructible loggedPort).1 5 (by decide),
    (has_resolve_iff_mem_constructible loggedPort).2.2 _ (List.reverse_perm _) "Port"⟩

end Wiring.ServiceGraph
