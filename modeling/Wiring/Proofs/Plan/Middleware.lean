import Mathlib.Data.List.Perm.Basic
import Wiring.Plan.Middleware
import Wiring.Proofs.Lookup

/-!
# The order of middleware

Declaring middleware by hand keeps two facts about the candidates (`MiddlewarePlan.Settled`): each
class that was met is a candidate once, where it was first met, and has the priority of its last
declaration or else of its annotation (`MiddlewarePlan.settled_candidates`). Dropping what cannot be
built and sorting by priority keep the order of those that remain among equals
(`MiddlewarePlan.compile_candidates`).
-/

namespace Wiring

/-- A stable sort leaves members that come before each other in their order. -/
theorem filter_mergeSort {α : Type} {le : α → α → Bool} {p : α → Bool}
    (htrans : ∀ a b c, le a b = true → le b c = true → le a c = true)
    (htotal : ∀ a b, (le a b || le b a) = true)
    (hp : ∀ a b, p a = true → p b = true → le a b = true) (l : List α) :
    (l.mergeSort le).filter p = l.filter p := by
  have hequal : (l.filter p).Pairwise fun a b => le a b = true :=
    List.pairwise_of_forall_mem_list fun a ha b hb =>
      hp a b (List.mem_filter.1 ha).2 (List.mem_filter.1 hb).2
  have hsublist : (l.filter p).Sublist ((l.mergeSort le).filter p) := by
    simpa [List.filter_filter] using
      (List.sublist_mergeSort htrans htotal hequal List.filter_sublist).filter p
  exact (hsublist.eq_of_length ((List.mergeSort_perm l le).filter p).length_eq.symm).symm

namespace MiddlewarePlan

section
variable {config : Config} {classes : List ClassDescriptor} {ds : List MiddlewareDeclaration}
  {d : MiddlewareDeclaration} {es : List MiddlewareEntry} {name : String}

/-! ## Candidates -/

/-- The annotated classes in the order in which they were discovered. -/
def annotatedNames (classes : List ClassDescriptor) : List String :=
  (classes.filter (·.middlewarePriority?.isSome)).map (·.name)

/-- The annotated classes, then the classes declared by hand that are not among them, in the order
of their first declarations. -/
def candidateNames (config : Config) (classes : List ClassDescriptor) : List String :=
  annotatedNames classes ++ ((config.middlewares.map (·.className)).filter fun name =>
    !(annotatedNames classes).contains name).eraseDups

/-- The priority in the last declaration of a class. -/
def declaredPriority? (ds : List MiddlewareDeclaration) (name : String) : Option Int32 :=
  (ds.reverse.find? (·.className == name)).map (·.priority)

/-- The priority in the annotation of a class. -/
def annotatedPriority? (classes : List ClassDescriptor) (name : String) : Option Int32 :=
  (classes.find? (·.name == name)).bind (·.middlewarePriority?)

/-- What the last declaration of a class says, or else its annotation. -/
def priority? (config : Config) (classes : List ClassDescriptor) (name : String) : Option Int32 :=
  (declaredPriority? config.middlewares name).or (annotatedPriority? classes name)

/-- After some declarations each class that was met is a candidate once, where it was first met,
with the priority that it has so far. -/
structure Settled (classes : List ClassDescriptor) (ds : List MiddlewareDeclaration)
    (es : List MiddlewareEntry) : Prop where
  names : es.map (·.className) =
    (annotatedNames classes ++ ds.map (·.className)).eraseDups
  priority : ∀ e ∈ es,
    (declaredPriority? ds e.className).or (annotatedPriority? classes e.className) = some e.priority

/-- No class is a candidate twice. -/
theorem Settled.nodup (h : Settled classes ds es) : (es.map (·.className)).Nodup := by
  rw [h.names]
  exact nodup_eraseDups _

/-- No annotated class comes twice. -/
theorem nodup_annotatedNames (hnames : (classes.map (·.name)).Nodup) :
    (annotatedNames classes).Nodup :=
  hnames.sublist (List.filter_sublist.map _)

/-- The annotated classes by their names. -/
theorem map_className_filterMap_annotated? (classes : List ClassDescriptor) :
    (classes.filterMap annotated?).map (·.className) = annotatedNames classes := by
  induction classes with
  | nil => rfl
  | cons c rest ih =>
    rw [annotatedNames] at ih ⊢
    cases hpriority : c.middlewarePriority? with
    | none | some p => simpa [annotated?, hpriority] using ih

/-- Before any declaration the annotated classes are the candidates. -/
theorem settled_annotated (hnames : (classes.map (·.name)).Nodup) :
    Settled classes [] (classes.filterMap annotated?) := by
  refine ⟨?_, fun e he => ?_⟩
  · rw [map_className_filterMap_annotated?, List.map_nil, List.append_nil,
      eraseDups_of_nodup (nodup_annotatedNames hnames)]
  · obtain ⟨c, hc, hce⟩ := List.mem_filterMap.1 he
    obtain ⟨p, hp, rfl⟩ := Option.map_eq_some_iff.1 hce
    rw [annotatedPriority?, (find?_key_eq_some_iff hnames).2 ⟨hc, rfl⟩]
    exact hp

/-- A declaration changes the candidate of its class or adds one. -/
theorem declare_eq (d : MiddlewareDeclaration) (es : List MiddlewareEntry) :
    declare d es = changeOrAdd (·.className) d.className ({ · with priority := d.priority })
      ⟨d.className, d.priority⟩ es := by
  induction es with
  | nil => rfl
  | cons e es ih => rw [declare, changeOrAdd, ih]

/-- A declaration adds its class behind the candidates, if it is not among them. -/
theorem map_className_declare (d : MiddlewareDeclaration) (es : List MiddlewareEntry) :
    (declare d es).map (·.className) =
      if d.className ∈ es.map (·.className) then es.map (·.className)
      else es.map (·.className) ++ [d.className] := by
  rw [declare_eq, map_key_changeOrAdd]
  · exact fun _ => rfl
  · rfl

/-- Declaring a class changes no candidate but the class. -/
theorem of_mem_declare (hnodup : (es.map (·.className)).Nodup) {e : MiddlewareEntry}
    (he : e ∈ declare d es) :
    e.className = d.className ∧ e.priority = d.priority ∨ e.className ≠ d.className ∧ e ∈ es := by
  rw [declare_eq] at he
  rcases of_mem_changeOrAdd hnodup he with ⟨e₀, -, hname, rfl⟩ | ⟨-, rfl⟩ | hother
  · exact .inl ⟨hname, rfl⟩
  · exact .inl ⟨rfl, rfl⟩
  · exact .inr hother

/-- The last declaration of a class counts. -/
theorem declaredPriority?_concat (ds : List MiddlewareDeclaration) (d : MiddlewareDeclaration)
    (name : String) : declaredPriority? (ds ++ [d]) name =
      if d.className = name then some d.priority else declaredPriority? ds name := by
  rw [declaredPriority?, declaredPriority?, List.reverse_append, List.reverse_singleton,
    List.singleton_append, List.find?_cons]
  by_cases h : d.className = name
  · rw [if_pos h, beq_iff_eq.2 h]
    rfl
  · rw [if_neg h, beq_false_of_ne h]

/-- One more declaration leaves the candidates settled. -/
theorem Settled.declare (h : Settled classes ds es) (d : MiddlewareDeclaration) :
    Settled classes (ds ++ [d]) (declare d es) := by
  refine ⟨?_, fun e he => ?_⟩
  · rw [map_className_declare, h.names, List.map_append, List.map_singleton, ← List.append_assoc,
      eraseDups_concat]
    simp only [List.mem_eraseDups]
  · rw [declaredPriority?_concat]
    rcases of_mem_declare h.nodup he with ⟨hname, hpriority⟩ | ⟨hname, he⟩
    · rw [if_pos hname.symm, hpriority]
      rfl
    · rw [if_neg (Ne.symm hname)]
      exact h.priority e he

/-- Declarations are taken one after the other. -/
theorem settled_foldl (h : Settled classes [] es) (ds : List MiddlewareDeclaration) :
    Settled classes ds (ds.foldl (fun es d => MiddlewarePlan.declare d es) es) := by
  induction ds using List.reverseRecOn with
  | nil => exact h
  | append_singleton ds d ih =>
    rw [List.foldl_append]
    exact ih.declare d

/-- All candidates, once all declarations are taken. -/
theorem settled_candidates (config : Config) (hnames : (classes.map (·.name)).Nodup) :
    Settled classes config.middlewares (candidates config classes) :=
  settled_foldl (settled_annotated hnames) config.middlewares

/-- The candidates by their names. -/
theorem map_className_candidates (hnames : (classes.map (·.name)).Nodup) :
    (candidates config classes).map (·.className) = candidateNames config classes := by
  rw [(settled_candidates config hnames).names, List.eraseDups_append,
    eraseDups_of_nodup (nodup_annotatedNames hnames)]
  rfl

/-- Some of the candidates by their names. -/
theorem map_className_filter_candidates (config : Config)
    (hnames : (classes.map (·.name)).Nodup) (p : String → Bool) :
    ((candidates config classes).filter fun e => p e.className).map (·.className) =
      (candidateNames config classes).filter p := by
  rw [← map_className_candidates hnames, List.filter_map]
  rfl

/-! ## Plans -/

/-- The order of priorities is transitive. -/
theorem priority_trans (a b c : MiddlewareEntry) (hab : decide (b.priority ≤ a.priority) = true)
    (hbc : decide (c.priority ≤ b.priority) = true) : decide (c.priority ≤ a.priority) = true :=
  decide_eq_true (Int32.le_trans (of_decide_eq_true hbc) (of_decide_eq_true hab))

/-- Of any two candidates one has at least the priority of the other. -/
theorem priority_total (a b : MiddlewareEntry) :
    (decide (b.priority ≤ a.priority) || decide (a.priority ≤ b.priority)) = true := by
  simpa using Int32.le_total b.priority a.priority

/-- Entries of one priority keep their order when entries are sorted. -/
theorem filter_priority_mergeSort (es : List MiddlewareEntry) (p : Int32) :
    (es.mergeSort fun a b => b.priority ≤ a.priority).filter (·.priority = p) =
      es.filter (·.priority = p) := by
  refine filter_mergeSort priority_trans priority_total (fun a b ha hb => ?_) es
  rw [of_decide_eq_true ha, of_decide_eq_true hb]
  exact decide_eq_true Int32.le_rfl

/-- The candidates that can be built run in the order of their priorities, and the others are
reported. -/
theorem compile_eq (config : Config) (classes : List ClassDescriptor) (services : ContainerPlan) :
    compile config classes services =
      (⟨((candidates config classes).filter fun e => services.has e.className).mergeSort
          fun a b => b.priority ≤ a.priority⟩,
        ((candidates config classes).filter fun e => !services.has e.className).map missing) := by
  rw [compile, List.partition_eq_filter_filter]
  rfl

/-- The plan has exactly one entry for each candidate that can be built, with the priority of the
last declaration of its class or else of its annotation. Entries stand in descending priority, and
those of one priority in the order of the candidates: the annotated classes as they were discovered,
then the other declared ones as they were first declared. There is one report for each other
candidate. -/
theorem compile_candidates (config : Config) (hnames : (classes.map (·.name)).Nodup)
    (services : ContainerPlan) :
    let built := (candidateNames config classes).filter fun name => services.has name
    let plan := (compile config classes services).1
    built.Nodup ∧ plan.classes.Perm built ∧
    (∀ e ∈ plan.entries, priority? config classes e.className = some e.priority) ∧
    plan.entries.Pairwise (fun a b => b.priority ≤ a.priority) ∧
    (∀ p, (plan.entries.filter (·.priority = p)).map (·.className) =
      built.filter fun name => priority? config classes name = some p) ∧
    (compile config classes services).2 =
      ((candidateNames config classes).filter fun name => !services.has name).map fun name =>
        .error name (.missingTarget name) := by
  have hsettled := settled_candidates config hnames
  have hbuilt := map_className_filter_candidates config hnames services.has
  have hdropped := map_className_filter_candidates config hnames (!services.has ·)
  rw [compile_eq]
  dsimp only
  refine ⟨?_, ?_, fun e he => ?_, ?_, fun p => ?_, ?_⟩
  · rw [← map_className_candidates hnames]
    exact hsettled.nodup.sublist List.filter_sublist
  · rw [← hbuilt]
    exact (List.mergeSort_perm _ _).map _
  · rw [List.mem_mergeSort] at he
    exact hsettled.priority e (List.mem_filter.1 he).1
  · exact (List.pairwise_mergeSort priority_trans priority_total _).imp of_decide_eq_true
  · -- sorting keeps the order of those with one priority
    have hpriority : ∀ e ∈ (candidates config classes).filter (fun e => services.has e.className),
        decide (priority? config classes e.className = some p) = decide (e.priority = p) := by
      intro e he
      rw [priority?, hsettled.priority e (List.mem_filter.1 he).1]
      simp only [Option.some.injEq]
    rw [filter_priority_mergeSort, ← hbuilt, List.filter_map, ← List.filter_congr hpriority]
    rfl
  · rw [← hdropped, List.map_map]
    rfl

/-- Three annotated classes, of which one cannot be built. -/
def gates : List ClassDescriptor := [
  { name := "Auth", kind := .concrete, annotations := [.middleware 5] },
  { name := "Session", kind := .concrete, annotations := [.middleware 9] },
  { name := "Trace", kind := .concrete, annotations := [.middleware 1] }]

/-- Two classes declared by hand, one of them twice and the other annotated. -/
def gateDeclarations : Config where
  middlewares := [⟨"Cors", 7⟩, ⟨"Trace", 50⟩, ⟨"Cors", 5⟩]

/-- The services that can be built. -/
def gateServices : ContainerPlan where
  services := ["Auth", "Trace", "Cors"].map fun id =>
    { id, className := id, singleton := true, origin := .discovered }

/-- Of the gates those that can be built run in the order of their last declared priorities. -/
theorem compile_candidates_gates : (gates.map (·.name)).Nodup ∧
    let plan := (compile gateDeclarations gates gateServices).1
    plan.classes.Perm ["Auth", "Trace", "Cors"] ∧
    (plan.entries.filter (·.priority = 5)).map (·.className) = ["Auth", "Cors"] ∧
    (compile gateDeclarations gates gateServices).2 =
      [.error "Session" (.missingTarget "Session")] := by
  have hnames : (gates.map (·.name)).Nodup := by decide
  obtain ⟨-, hperm, -, -, hequal, hreports⟩ :=
    compile_candidates gateDeclarations hnames gateServices
  refine ⟨hnames, hperm, (hequal 5).trans (by decide), hreports.trans (by decide)⟩

end

end MiddlewarePlan

end Wiring
