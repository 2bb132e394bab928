import Wiring.Proofs.Service.Declared
import Wiring.Proofs.ServiceGraph.Blame

/-!
# Which cycles are reported

A cycle is found where a link leads back to the stack, and then it is handed up through whatever has
no other way to be built. Each identifier on a stack depends on the next one, so the part from where
the link leads back to is a cycle of dependencies (`Trail.circular`), and stays one wherever the
failure is remembered and used again.

A service takes a cycle for its own failure only if it is on it. An alias takes any cycle that its
target hands up, so what is reported of it may be a cycle it only leads to
(`not_forall_subject_mem_path`). All that can be said is that following the alias one gets onto the
cycle (`circular_of_mem_resolve`).
-/

namespace Wiring.ServiceGraph

open Relation (ReflTransGen TransGen)

/-- A way along dependencies that ends where it began and comes nowhere else twice. -/
structure Circular (services : ServiceMap) (path : List String) : Prop where
  closed : ∃ start rest, path = start :: rest ++ [start] ∧ (start :: rest).Nodup
  linked : path.IsChain (DependsOn services)

/-- If a failure is a cycle, then it is a cycle of dependencies, and the identifier that fails is on
it or another name of one that is. -/
def Failure.Genuine (services : ServiceMap) (id : String) (f : Failure) : Prop :=
  ∀ path, f = .cycle path →
    Circular services path ∧ ∃ z ∈ path, ReflTransGen services.Renames id z

/-- All failures that are remembered are genuine. -/
structure Walk.Genuine (services : ServiceMap) (w : Walk) : Prop where
  settled : ∀ id f, w.settled.lookup id = some (.error f) → f.Genuine services id
  frame : ∀ id v f, w.frame.lookup id = some v → v.failure? = some f → f.Genuine services id

section
variable {services : ServiceMap} {stack path : List String} {id z : String} {o : Option Nat}
  {f : Failure} {r : Except Failure (List (String × Argument))} {w : Walk}

/-- The stack from the identifier that is visited again is a cycle. -/
theorem Trail.circular (h : Trail services stack id) {pos : Nat}
    (hpos : stack.findIdx? (· == id) = some pos) : Circular services (stack.drop pos ++ [id]) := by
  obtain ⟨hlt, hid, -⟩ := List.findIdx?_eq_some_iff_getElem.1 hpos
  have hdrop : stack.drop pos = id :: stack.drop (pos + 1) := by
    rw [List.drop_eq_getElem_cons hlt, eq_of_beq hid]
  refine ⟨⟨id, stack.drop (pos + 1), by rw [hdrop], ?_⟩, ?_⟩
  · rw [← hdrop]
    exact h.nodup.sublist (List.drop_sublist pos stack)
  · rw [← List.drop_append_of_le_length hlt.le]
    exact h.linked.drop pos

/-- Everything on a cycle depends on itself. -/
theorem Circular.reaches (h : Circular services path) (hz : z ∈ path) :
    TransGen (DependsOn services) z z := by
  obtain ⟨start, rest, rfl, -⟩ := h.closed
  have hlinked : (start :: rest ++ [start]).IsChain (TransGen (DependsOn services)) :=
    h.linked.imp fun _ _ hstep => .single hstep
  have hout : ∀ y ∈ rest ++ [start], TransGen (DependsOn services) start y :=
    fun y hy => List.rel_of_pairwise_cons hlinked.pairwise hy
  have hback : ∀ y ∈ start :: rest, TransGen (DependsOn services) y start :=
    fun y hy => (List.pairwise_append.1 hlinked.pairwise).2.2 y hy start (.head _)
  have hstart := hout start (by simp)
  rcases List.mem_append.1 hz with hz | hz
  · rcases List.mem_cons.1 hz with rfl | hrest
    · exact hstart
    · exact (hback z hz).trans (hout z (List.mem_append_left _ hrest))
  · exact List.mem_singleton.1 hz ▸ hstart

/-- A frame hands up genuine failures only, if it got no others. -/
theorem FrameResult.genuine
    (h : FrameResult services (fun z v => ∀ f, v.failure? = some f → f.Genuine services z) id r o)
    (hr : r = .error f) : f.Genuine services id := by
  rintro path rfl
  cases h with
  | @«alias» target v he hv =>
    obtain ⟨_, hfail, hpath⟩ | ⟨-, hno⟩ := aliasResult_eq_error hr
    · cases hpath
      obtain ⟨hcircular, z, hz, hleads⟩ := hv _ hfail path rfl
      exact ⟨hcircular, z, hz, .head he hleads⟩
    · cases hno
  | service he hl =>
    obtain ⟨p, -, blame, o', hb, hown⟩ := hl.exists_error _ hr
    obtain ⟨_, hcause, hid, hcycle⟩ | hno := ownFailure_cases id p.1 blame
    · rw [hcycle] at hown
      cases hown
      obtain ⟨-, v, hv, hfail⟩ := hb.blamed
      exact ⟨(hv _ hfail path hcause).1, id, hid, .refl⟩
    · rw [hno] at hown
      cases hown

/-- The verdict on a frame fails as its result does. -/
theorem failure?_close (id : String) (depth : Nat) (r : Except Failure (List (String × Argument)))
    (o : Option Nat) (w : Walk) : (close id depth r o w).1.failure? = failureOf r := by
  simp only [close]
  cases o.filter (· < depth) <;> rfl

/-- Closing a frame lets the frame below know of nothing but its result. -/
theorem of_lookup_frame_close {depth : Nat} {v : Visit}
    (h : (close id depth r o w).2.frame.lookup z = some v) :
    w.frame.lookup z = some v ∨ z = id ∧ v.failure? = failureOf r := by
  simp only [close] at h
  cases ho : o.filter (· < depth) with
  | none =>
    rw [ho] at h
    refine .inl (h ▸ ?_)
    simp [Walk.commit, Walk.finish, Walk.settle]
  | some pos =>
    rw [ho] at h
    replace h := (lookup_cons_filter z id _ w.frame).symm.trans h
    split at h
    · next hz =>
      cases h
      exact .inr ⟨hz, rfl⟩
    · exact .inl h

/-- The failure of a result is the one that it is. -/
theorem failureOf_eq_some {α : Type} {r : Except Failure α} :
    failureOf r = some f ↔ r = .error f := by
  cases r <;> simp [failureOf]

/-- Closing a frame remembers no failure but its own. -/
theorem Walk.Genuine.close (h : w.Genuine services) (hr : ∀ f, r = .error f → f.Genuine services id)
    (depth : Nat) : (ServiceGraph.close id depth r o w).2.Genuine services where
  settled z f hz := by
    obtain hz | ⟨rfl, hf, -⟩ := of_lookup_close_eq_error hz
    · exact h.settled z f hz
    · exact hr f hf
  frame z v f hz hf := by
    obtain hz | ⟨rfl, hv⟩ := of_lookup_frame_close hz
    · exact h.frame z v f hz hf
    · exact hr f (failureOf_eq_some.1 (hv.symm.trans hf))

end

/-- Every visit keeps failures genuine. -/
theorem extends_genuine (services : ServiceMap) :
    Extends services (Walk.Genuine services)
      fun _ id v => ∀ f, v.failure? = some f → f.Genuine services id where
  enter _ h := ⟨h.settled, nofun⟩
  leave _ _ h h' := ⟨h'.settled, h.frame⟩
  settled w _ id r h hr f hf := h.settled id f (hr.trans (by rw [failureOf_eq_some.1 hf]))
  onStack stack id pos htrail hpos f hf path hpath := by
    cases hf
    cases hpath
    exact ⟨htrail.circular hpos, id, by simp, .refl⟩
  known w _ id v h hv f hf := h.frame id v f hv hf
  unregistered _ _ _ f hf := by cases hf; exact nofun
  ambiguous _ _ _ _ f hf := by cases hf; exact nofun
  close w stack id r o hr h _ := by
    have hr' : ∀ f, r = .error f → f.Genuine services id :=
      fun f hf => (hr.narrow fun _ _ hv _ => hv.2).genuine hf
    refine ⟨h.close hr' _, fun f hf => hr' f ?_⟩
    rw [failure?_close] at hf
    exact failureOf_eq_some.1 hf

section
variable {services : ServiceMap} {d : Diagnostic}

/-- What is reported as a cycle is one, and the subject is on it or an alias that leads onto it. -/
theorem circular_of_finding (hd : d ∈ (resolve services).2) {path : List String}
    (hpath : d.finding = .cycle path) : Circular services path ∧ (d.subject ∈ path ∨
      ∃ target, services.Renames d.subject target ∧
        ∃ z ∈ path, ReflTransGen services.Renames target z) := by
  obtain ⟨-, f, hfinding, hset, -⟩ := exists_failure_of_mem_resolve hd
  have hcycle : f = .cycle path := by
    rw [hpath] at hfinding
    cases f <;> cases hfinding
    rfl
  obtain ⟨hcircular, z, hz, hleads⟩ :=
    ((extends_genuine services).walk ⟨nofun, nofun⟩).settled _ f hset path hcycle
  refine ⟨hcircular, ?_⟩
  rcases ReflTransGen.cases_head hleads with heq | ⟨target, htarget, hleads⟩
  · exact .inl (heq ▸ hz)
  · exact .inr ⟨target, htarget, z, hz, hleads⟩

/-- An omitted identifier that is not on a cycle, and no other name of one that is, is reported for
the sake of what it depends on. -/
theorem missing_of_not_circular {id : String} (hid : Definite services id)
    (hno : id ∉ planned services)
    (hfree : ∀ z, ReflTransGen services.Renames id z → ¬ TransGen (DependsOn services) z z) :
    ∃ d ∈ (resolve services).2, d.subject = id ∧
      ((∃ s param needed, services.get? id = some (.service s) ∧
          d.finding = .missingDependency param needed) ∨
        ∃ target, services.Renames id target ∧ d.finding = .missingTarget target) := by
  obtain ⟨r, hr⟩ := Option.isSome_iff_exists.1 (walk_decided hid)
  cases r with
  | ok args => exact absurd (has_resolve.2 ⟨args, hr⟩) hno
  | error f =>
    obtain ⟨d, hd, rfl⟩ := List.mem_map.1 (mem_subjects_resolve.2 ⟨f, hr⟩)
    refine ⟨d, hd, rfl, ?_⟩
    obtain ⟨-, f', hfinding, -, hblames⟩ := exists_failure_of_mem_resolve hd
    cases f' with
    | notRegistered | ambiguous => cases hfinding
    | dependency param needed =>
      obtain ⟨s, he, -⟩ := hblames
      exact .inl ⟨s, param, needed, he, (Option.some.inj hfinding).symm⟩
    | aliasTarget target => exact .inr ⟨target, hblames.1, (Option.some.inj hfinding).symm⟩
    | cycle path =>
      obtain ⟨hcircular, hmem | ⟨target, htarget, z, hz, hleads⟩⟩ :=
        circular_of_finding hd (Option.some.inj hfinding).symm
      · exact absurd (hcircular.reaches hmem) (hfree _ .refl)
      · exact absurd (hcircular.reaches hz) (hfree z (.head htarget hleads))

end

/-- Every cycle that is reported is a cycle of dependencies, and its subject is on it or an alias by
which one gets onto it. What is omitted without being on a cycle, or another name of something that
is, is reported as a service that misses a dependency or as an alias that misses its target. -/
theorem circular_of_mem_resolve (services : ServiceMap) :
    (∀ d ∈ (resolve services).2, ∀ path, d.finding = .cycle path →
      Circular services path ∧ (d.subject ∈ path ∨ ∃ target, services.Renames d.subject target ∧
        ∃ z ∈ path, ReflTransGen services.Renames target z)) ∧
    ∀ id, Definite services id → id ∉ planned services →
      (∀ z, ReflTransGen services.Renames id z → ¬ TransGen (DependsOn services) z z) →
      ∃ d ∈ (resolve services).2, d.subject = id ∧
        ((∃ s param needed, services.get? id = some (.service s) ∧
            d.finding = .missingDependency param needed) ∨
          ∃ target, services.Renames id target ∧ d.finding = .missingTarget target) :=
  ⟨fun _ hd _ hpath => circular_of_finding hd hpath, fun _ => missing_of_not_circular⟩

/-- A log that would itself be logged, with a second name, and a reader of it. -/
def journal : ServiceMap where
  entries := [
    ("Journal", .alias "Log"),
    ("Log", .service { className := "Log", params := [("parent", .service "Log" none)] }),
    ("Reader", .service { className := "Reader", params := [("log", .service "Log" none)] })]
  nodup := by decide

/-- All that is depended on in the journal is the log. -/
theorem eq_log_of_dependsOn {id z : String} (h : DependsOn journal id z) : z = "Log" := by
  cases h with
  | «alias» he =>
    have hmem := ServiceMap.get?_eq_some_iff.1 he
    simp only [journal, List.mem_cons, Prod.mk.injEq, reduceCtorEq, and_false, List.not_mem_nil,
      or_false, ServiceEntry.alias.injEq] at hmem
    exact hmem.2
  | service he hp hz =>
    have hmem := ServiceMap.get?_eq_some_iff.1 he
    simp only [journal, List.mem_cons, Prod.mk.injEq, reduceCtorEq, and_false, List.not_mem_nil,
      or_false, false_or, ServiceEntry.service.injEq] at hmem
    rcases hmem with ⟨-, rfl⟩ | ⟨-, rfl⟩
    all_goals
      obtain rfl := List.mem_singleton.1 hp
      cases hz with
      | head => rfl
      | fallback hf _ => cases hf

/-- The log, its second name and its reader: a cycle is reported for the log itself and for its
name. -/
theorem circular_of_mem_resolve_journal :
    let log := Diagnostic.error "Log" (.cycle ["Log", "Log"])
    (log ∈ (resolve journal).2 ∧ Circular journal ["Log", "Log"]) ∧
      "Reader" ∉ planned journal ∧ ∃ d ∈ (resolve journal).2, d.subject = "Reader" ∧
        ((∃ s param needed, journal.get? "Reader" = some (.service s) ∧
            d.finding = .missingDependency param needed) ∨
          ∃ target, journal.Renames "Reader" target ∧ d.finding = .missingTarget target) := by
  intro log
  have hlog : log ∈ (resolve journal).2 := by decide +kernel
  have hreader : "Reader" ∉ planned journal := by
    change ¬ (resolve journal).1.has "Reader" = true
    decide +kernel
  obtain ⟨hcycles, hmissing⟩ := circular_of_mem_resolve journal
  refine ⟨⟨hlog, (hcycles log hlog _ rfl).1⟩, hreader, hmissing "Reader" ?_ hreader ?_⟩
  · exact ⟨_, rfl, fun _ => nofun⟩
  · -- nothing depends on the reader, and it is no other name of anything
    intro z hz hloop
    rcases ReflTransGen.cases_head hz with rfl | ⟨target, htarget, -⟩
    · obtain ⟨y, -, hy⟩ := TransGen.tail'_iff.1 hloop
      exact absurd (eq_log_of_dependsOn hy) (by decide)
    · cases htarget

/-- What is reported as being on a cycle need not be: an alias of something on a cycle is not. -/
theorem not_forall_subject_mem_path : ¬ ∀ (services : ServiceMap), ∀ d ∈ (resolve services).2,
    ∀ path, d.finding = .cycle path → d.subject ∈ path := by
  intro h
  have hjournal : Diagnostic.error "Journal" (.cycle ["Log", "Log"]) ∈ (resolve journal).2 := by
    decide +kernel
  exact absurd (h journal _ hjournal _ rfl) (by decide)

end Wiring.ServiceGraph
