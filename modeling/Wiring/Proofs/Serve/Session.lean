import Mathlib.Data.List.Nodup
import Wiring.Proofs.Serve.Logged
import Wiring.Proofs.ServiceGraph.Acyclic

/-!
# Sharing over many requests

A singleton is built for the first request that is answered and is the same instance ever after; a
service that is no singleton is built anew for each. What is built in is an exception: it is never
built, and every request for it gets the container or the configuration itself.

The invariant (`Recorded`) compares, for each service, what the log tells of it with what is
remembered. While the arguments of a service are evaluated nothing is remembered under its own
identifier, because on a plan without cycles no argument leads back to it; so the instance that is
built then is the first.
-/

namespace Wiring

open Relation (ReflTransGen TransGen)

/-! ## What a log tells of a service -/

/-- The serial number of an object. -/
def Instance.serial? : Instance → Option Nat
  | object _ _ serial => some serial
  | container | config => none

/-- The service that something happens to. -/
def Happening.id : Happening → String
  | built id _ => id
  | answered id _ => id

namespace Log

section
variable {id id' : String} {i : Instance} {log es : Log}

@[simp] theorem builtAs_nil : builtAs id [] = [] := rfl
@[simp] theorem answersOf_nil : answersOf id [] = [] := rfl
@[simp] theorem builtAs_answered : builtAs id (.answered id' i :: es) = builtAs id es := rfl
@[simp] theorem answersOf_built : answersOf id (.built id' i :: es) = answersOf id es := rfl

@[simp] theorem builtAs_built : builtAs id (.built id i :: es) = i :: builtAs id es := by
  simp [builtAs]

@[simp] theorem answersOf_answered :
    answersOf id (.answered id i :: es) = i :: answersOf id es := by
  simp [answersOf]

/-- What was built for a service, and then what more was. -/
theorem builtAs_append : builtAs id (log ++ es) = builtAs id log ++ builtAs id es :=
  List.filterMap_append

/-- What requests were answered with, and then what more of them were. -/
theorem answersOf_append : answersOf id (log ++ es) = answersOf id log ++ answersOf id es :=
  List.filterMap_append

/-- All that was built, and then what more was. -/
theorem allBuilt_append : allBuilt (log ++ es) = allBuilt log ++ allBuilt es :=
  List.filterMap_append

/-- Nothing is told of a service that nothing happened to. -/
theorem of_ne (h : ∀ e ∈ es, e.id ≠ id) : builtAs id es = [] ∧ answersOf id es = [] := by
  constructor <;>
  · refine List.filterMap_eq_nil_iff.2 fun e he => ?_
    cases e with
    | built id' i | answered id' i => first | rfl | exact if_neg (h _ he)

end

end Log

/-- What a log tells of a service agrees with what is remembered of it. -/
inductive Fair (s : Construction) : (built answers : List Instance) → Option Instance → Prop
  | container {answers : List Instance} : s.origin = .builtin .container →
      (∀ i ∈ answers, i = .container) → Fair s [] answers none
  | config {answers : List Instance} {memo : Option Instance} : s.origin = .builtin .config →
      (∀ i ∈ answers, i = .config) → (∀ i, memo = some i → i = .config ∧ s.singleton = true) →
      Fair s [] answers memo
  | singleton {answers : List Instance} {memo : Option Instance} : (∀ b, s.origin ≠ .builtin b) →
      s.singleton = true → (∀ i ∈ answers, memo = some i) → Fair s memo.toList answers memo
  | transient {answers : List Instance} : (∀ b, s.origin ≠ .builtin b) → s.singleton = false →
      Fair s answers answers none

/-- What a built-in service is. -/
def Builtin.instance : Builtin → Instance
  | container => .container
  | config => .config

namespace Fair

section
variable {s : Construction} {b : Builtin} {i : Instance} {built answers : List Instance}
  {memo : Option Instance}

/-- Before anything happened nothing is remembered. -/
theorem fresh (s : Construction) : Fair s [] [] none := by
  cases horigin : s.origin with
  | builtin b =>
    cases b with
    | container => exact .container horigin nofun
    | config => exact .config horigin nofun nofun
  | discovered | manual =>
    have hnot : ∀ b, s.origin ≠ .builtin b := by simp [horigin]
    cases hs : s.singleton with
    | true =>
      have hfair : Fair s (none : Option Instance).toList [] none := .singleton hnot hs nofun
      exact hfair
    | false => exact transient hnot hs

/-- What is remembered may be the answer again. -/
theorem again (h : Fair s built answers (some i)) : Fair s built (answers ++ [i]) (some i) := by
  generalize hmemo : some i = memo at h
  cases h with
  | container _ _ | transient _ _ => cases hmemo
  | config horigin ha hm =>
    exact .config horigin (by simpa [or_imp, forall_and] using ⟨ha, (hm i hmemo.symm).1⟩) hm
  | singleton hnot hs ha =>
    exact .singleton hnot hs (by simpa [or_imp, forall_and] using ⟨ha, hmemo.symm⟩)

/-- What is built in is the answer to every request. -/
theorem given (h : Fair s built answers memo) (horigin : s.origin = .builtin b) :
    Fair s built (answers ++ [b.instance]) memo := by
  cases h with
  | container hcontainer ha =>
    cases hcontainer.symm.trans horigin
    exact .container hcontainer (by simpa [or_imp, forall_and] using ⟨ha, rfl⟩)
  | config hconfig ha hm =>
    cases hconfig.symm.trans horigin
    exact .config hconfig (by simpa [or_imp, forall_and] using ⟨ha, rfl⟩) hm
  | singleton hnot _ _ | transient hnot _ => exact absurd horigin (hnot b)

/-- The configuration is remembered if it is a singleton. -/
theorem keep (h : Fair s built answers memo) (horigin : s.origin = .builtin .config)
    (hs : s.singleton = true) : Fair s built answers (some .config) := by
  cases h with
  | container hcontainer _ => cases hcontainer.symm.trans horigin
  | config _ ha _ => exact .config horigin ha (by simpa using hs)
  | singleton hnot _ _ | transient hnot _ => exact absurd horigin (hnot _)

/-- The first instance of a singleton is remembered. -/
theorem first (h : Fair s built answers none) (hnot : ∀ b, s.origin ≠ .builtin b)
    (hs : s.singleton = true) : Fair s (built ++ [i]) (answers ++ [i]) (some i) := by
  generalize hmemo : none = memo at h
  cases h with
  | container horigin _ | config horigin _ _ => exact absurd horigin (hnot _)
  | transient _ hs' => cases hs.symm.trans hs'
  | singleton _ _ ha =>
    subst hmemo
    obtain rfl : answers = [] := List.eq_nil_iff_forall_not_mem.2 fun j hj => nomatch ha j hj
    have hfair : Fair s (some i).toList [i] (some i) := .singleton hnot hs (by simp)
    exact hfair

/-- A service that is no singleton gets one more instance. -/
theorem anew (h : Fair s built answers memo) (hnot : ∀ b, s.origin ≠ .builtin b)
    (hs : s.singleton = false) : Fair s (built ++ [i]) (answers ++ [i]) memo := by
  cases h with
  | container horigin _ | config horigin _ _ => exact absurd horigin (hnot _)
  | singleton _ hs' _ => cases hs.symm.trans hs'
  | transient _ _ => exact .transient hnot hs

/-- A singleton was built at most once. -/
theorem length_le_one (h : Fair s built answers memo) (hs : s.singleton = true) :
    built.length ≤ 1 := by
  cases h with
  | container _ _ | config _ _ _ => exact Nat.zero_le _
  | singleton _ _ _ => cases memo <;> simp
  | transient _ hs' => cases hs.symm.trans hs'

/-- All requests for a singleton were answered with the same instance. -/
theorem answers_eq (h : Fair s built answers memo) (hs : s.singleton = true) :
    ∀ i ∈ answers, ∀ j ∈ answers, i = j := by
  cases h with
  | container _ ha | config _ ha _ => exact fun i hi j hj => (ha i hi).trans (ha j hj).symm
  | singleton _ _ ha => exact fun i hi j hj => Option.some.inj ((ha i hi).symm.trans (ha j hj))
  | transient _ hs' => cases hs.symm.trans hs'

/-- What was built for a service that is no singleton is what requests were answered with. -/
theorem built_eq (h : Fair s built answers memo) (hs : s.singleton = false)
    (hnot : ∀ b, s.origin ≠ .builtin b) : built = answers := by
  cases h with
  | container horigin _ | config horigin _ _ => exact absurd horigin (hnot _)
  | singleton _ hs' _ => cases hs.symm.trans hs'
  | transient _ _ => rfl

/-- What is built in was never built, and is the answer to each request. -/
theorem of_builtin (h : Fair s built answers memo) (horigin : s.origin = .builtin b) :
    built = [] ∧ ∀ i ∈ answers, i = b.instance := by
  cases h with
  | container hcontainer ha =>
    cases hcontainer.symm.trans horigin
    exact ⟨rfl, ha⟩
  | config hconfig ha _ =>
    cases hconfig.symm.trans horigin
    exact ⟨rfl, ha⟩
  | singleton hnot _ _ | transient hnot _ => exact absurd horigin (hnot b)

/-- What is remembered is a singleton that was built, or the configuration. -/
theorem of_memo (h : Fair s built answers (some i)) :
    s.singleton = true ∧ (i ∈ built ∨ s.origin = .builtin .config ∧ i = .config) := by
  generalize hmemo : some i = memo at h
  cases h with
  | container _ _ | transient _ _ => cases hmemo
  | config horigin _ hm => exact ⟨(hm i hmemo.symm).2, .inr ⟨horigin, (hm i hmemo.symm).1⟩⟩
  | singleton _ hs _ => exact ⟨hs, .inl (by simp [← hmemo])⟩

end

end Fair

/-- The log beside a state tells of every service what is remembered, and all that was built is
numbered in order. -/
structure Recorded {τ : Type} (p : ContainerPlan) (v : World (τ × Log)) : Prop where
  fair : ∀ s, p.service? s.id = some s →
    Fair s (v.log.builtAs s.id) (v.log.answersOf s.id) (v.singletons.lookup s.id)
  known : ∀ id i, v.singletons.lookup id = some i → ∃ s, p.service? id = some s
  numbered : v.log.allBuilt.map Instance.serial? = (List.range' 1 v.built).map some

/-- A state that came of another, when nothing but the services of `S` can have been remembered. -/
structure Continues {τ : Type} (p : ContainerPlan) (S : String → Prop) (v v' : World (τ × Log)) :
    Prop where
  recorded : Recorded p v'
  untouched : ∀ u, ¬ S u → v'.singletons.lookup u = v.singletons.lookup u

section
variable {τ : Type} {p : ContainerPlan} {v v' v'' : World (τ × Log)} {s : Construction}
  {S S' : String → Prop}

/-- At the start nothing is told and nothing remembered. -/
theorem Recorded.start (p : ContainerPlan) (env : Variables) (own : τ) :
    Recorded p (World.withLog { env, own } []) :=
  ⟨fun s _ => .fresh s, nofun, rfl⟩

/-- What happens to one service changes nothing for the others. -/
theorem Recorded.update (h : Recorded p v) (hs : p.service? s.id = some s) (es : Log) (n : Nat)
    (hes : ∀ e ∈ es, e.id = s.id) (hlog : v'.log = v.log ++ es)
    (hmemo : ∀ u, u ≠ s.id → v'.singletons.lookup u = v.singletons.lookup u)
    (hfair : Fair s (v.log.builtAs s.id ++ es.builtAs s.id)
      (v.log.answersOf s.id ++ es.answersOf s.id) (v'.singletons.lookup s.id))
    (hbuilt : v'.built = v.built + n)
    (hnumbered : es.allBuilt.map Instance.serial? = (List.range' (v.built + 1) n).map some) :
    Continues p (· = s.id) v v' where
  recorded := by
    refine ⟨fun s' hs' => ?_, fun u i hi => ?_, ?_⟩
    · rw [hlog, Log.builtAs_append, Log.answersOf_append]
      by_cases heq : s'.id = s.id
      · rw [heq, hs] at hs'
        cases hs'
        exact hfair
      · obtain ⟨hb, ha⟩ := Log.of_ne fun e he hid => heq (hid.symm.trans (hes e he))
        rw [hb, ha, List.append_nil, List.append_nil, hmemo _ heq]
        exact h.fair s' hs'
    · by_cases heq : u = s.id
      · exact ⟨s, heq ▸ hs⟩
      · exact h.known u i (hmemo u heq ▸ hi)
    · rw [hlog, Log.allBuilt_append, List.map_append, h.numbered, hnumbered, hbuilt,
        ← List.map_append, Nat.add_comm v.built 1, List.range'_append_1]
  untouched := hmemo

namespace Continues

/-- A state came of itself. -/
theorem refl (h : Recorded p v) : Continues p S v v :=
  ⟨h, fun _ _ => rfl⟩

/-- More services may have been remembered. -/
theorem mono (h : Continues p S v v') (hS : ∀ u, S u → S' u) : Continues p S' v v' :=
  ⟨h.recorded, fun u hu => h.untouched u (mt (hS u) hu)⟩

/-- A state that came of another may come of a third one. -/
theorem trans (h : Continues p S v v') (h' : Continues p S v' v'') : Continues p S v v'' :=
  ⟨h'.recorded, fun u hu => (h'.untouched u hu).trans (h.untouched u hu)⟩

/-- The application's own state does not matter. -/
theorem own (h : Recorded p v) (own : τ) : Continues p S v { v with own := (own, v.log) } :=
  ⟨⟨h.fair, h.known, h.numbered⟩, fun _ _ => rfl⟩

end Continues

end

namespace Container

/-! ## Answering one request -/

section
variable {τ : Type} {p : ContainerPlan} {c : Container τ}
  {get : String → Serving (τ × Log) Instance} {s : Construction} {v : World (τ × Log)}

/-- The configuration is always there. -/
theorem constructLogged_config (h : s.origin = .builtin .config) :
    c.constructLogged get s v = (.ok .config, v) := by
  simp only [constructLogged, construct, h]
  rfl

/-- What is built in is there, or cannot be reached; the state stays as it is. -/
theorem constructLogged_builtin {b : Builtin} (h : s.origin = .builtin b) :
    ∃ result, c.constructLogged get s v = (result, v) ∧ ∀ i, result = .ok i → i = b.instance := by
  cases b with
  | config => exact ⟨_, constructLogged_config h, fun _ hi => (Except.ok.inj hi).symm⟩
  | container =>
    cases hshared : c.isShared with
    | true =>
      refine ⟨.ok .container, ?_, fun _ hi => (Except.ok.inj hi).symm⟩
      simp only [constructLogged, construct, h, logging, hshared]
      rfl
    | false =>
      refine ⟨.error (.serviceNotFound s.id), ?_, ?_⟩
      · simp only [constructLogged, construct, h, logging, hshared]
        rfl
      · rintro i ⟨⟩

/-- What is not built in is built, and that is written down. -/
theorem constructLogged_of_not_builtin (hnot : ∀ b, s.origin ≠ .builtin b) :
    c.constructLogged get s = noting (.built s.id) (c.logging.construct get s) := by
  rw [constructLogged]
  cases horigin : s.origin with
  | builtin b => exact absurd horigin (hnot b)
  | discovered | manual => rfl

/-- A call of the function that builds a service fails, or it makes the next object. -/
theorem assemble_cases (r : Registry τ) (s : Construction) (args : List (String × Value))
    (w : World τ) : (∃ e own, assemble r s args w = (.error e, { w with own })) ∨
      ∃ type label own, assemble r s args w =
        (.ok (.object type label (w.built + 1)), { w with own, built := w.built + 1 }) := by
  have hcall (f : Constructor τ) : (∃ e own, call f ⟨args⟩ w = (.error e, { w with own })) ∨
      ∃ type label own, call f ⟨args⟩ w =
        (.ok (.object type label (w.built + 1)), { w with own, built := w.built + 1 }) := by
    simp only [call, Serving.act]
    rcases f (w.built + 1) ⟨args⟩ w.own with ⟨e | made, own⟩
    · exact .inl ⟨e, own, rfl⟩
    · exact .inr ⟨made.type, made.label, own, rfl⟩
  have hentry (missing : String → ServeError) (fs : List (String × Constructor τ)) (name : String) :
      (∃ e own, (liftM (Registry.entry missing fs name) >>= fun f => call f ⟨args⟩) w =
        (.error e, { w with own })) ∨
      ∃ type label own, (liftM (Registry.entry missing fs name) >>= fun f => call f ⟨args⟩) w =
        (.ok (.object type label (w.built + 1)), { w with own, built := w.built + 1 }) := by
    rw [Registry.entry]
    cases fs.lookup name with
    | none => exact .inl ⟨_, w.own, rfl⟩
    | some f => exact hcall f
  rw [assemble, Registry.builder]
  cases s.factory? with
  | some f | none => exact hentry _ _ _

/-- Building a service evaluates its arguments; then the call fails, or it makes the next object,
and that is written down. -/
theorem constructLogged_cases (hnot : ∀ b, s.origin ≠ .builtin b) {v₁ : World (τ × Log)}
    (hv₁ : (argValues c.registry.logging get s.args v).2 = v₁) :
    (∃ e own, c.constructLogged get s v = (.error e, { v₁ with own := (own, v₁.log) })) ∨
      ∃ type label own, c.constructLogged get s v =
        (.ok (.object type label (v₁.built + 1)),
          { v₁ with
            own := (own, v₁.log ++ [.built s.id (.object type label (v₁.built + 1))])
            built := v₁.built + 1 }) := by
  have hlogged : c.constructLogged get s v = noting (.built s.id)
      (argValues c.registry.logging get s.args >>= assemble c.registry.logging s) v := by
    rw [constructLogged_of_not_builtin hnot, construct_eq_assemble hnot, logging]
  rw [hlogged, noting, serving_bind]
  rcases hargs : argValues c.registry.logging get s.args v with ⟨e | args, v₂⟩
  all_goals
    rw [hargs] at hv₁
    obtain rfl : v₂ = v₁ := hv₁
  · exact .inl ⟨e, v₂.own.1, rfl⟩
  · obtain ⟨hresult, hstate⟩ := beside_assemble v₂.log c.registry s args v₂.forget v₂ rfl
    have heq : assemble c.registry.logging s args v₂ =
        ((assemble c.registry s args v₂.forget).1,
          (assemble c.registry s args v₂.forget).2.withLog v₂.log) :=
      Prod.ext hresult.symm hstate
    simp only [heq]
    rcases assemble_cases c.registry s args v₂.forget with ⟨e, own, h⟩ | ⟨type, label, own, h⟩
    · rw [h]
      exact .inl ⟨e, own, rfl⟩
    · rw [h]
      exact .inr ⟨type, label, own, rfl⟩

/-- A singleton is answered from what is remembered, or else built and remembered. -/
theorem answerLogged_of_singleton (hcontainer : s.origin ≠ .builtin .container)
    (hs : s.singleton = true) : c.answerLogged get s v = match v.singletons.lookup s.id with
      | some i => (.ok i, v)
      | none => match c.constructLogged get s v with
        | (.ok i, v₁) => Serving.remember s.id i v₁
        | (.error e, v₁) => (.error e, v₁) := by
  rw [answerLogged, if_neg hcontainer, if_pos hs, serving_bind]
  simp only [Serving.singleton?]
  cases v.singletons.lookup s.id with
  | some i => rfl
  | none =>
    simp only
    rw [serving_bind]
    rcases c.constructLogged get s v with ⟨e | i, v₁⟩ <;> rfl

/-- A service that is no singleton is built for each request. -/
theorem answerLogged_of_transient (hs : s.singleton = false) :
    c.answerLogged get s = c.constructLogged get s := by
  rw [answerLogged, hs]
  split <;> rfl

/-- An answer is written down. -/
theorem continues_note (hv : Recorded p v) (hs : p.service? s.id = some s) {i : Instance}
    (hfair : Fair s (v.log.builtAs s.id) (v.log.answersOf s.id ++ [i]) (v.singletons.lookup s.id)) :
    Continues p (· = s.id) v (v.note (.answered s.id i)) := by
  refine hv.update hs [.answered s.id i] 0 (by simp [Happening.id]) rfl
    (fun _ _ => rfl) ?_ rfl rfl
  simpa [World.note] using hfair

/-- A request for something built in is answered with it. -/
theorem continues_builtin (hv : Recorded p v) (hs : p.service? s.id = some s) {b : Builtin}
    (horigin : s.origin = .builtin b) :
    Continues p (· = s.id) v (noting (.answered s.id) (c.answerLogged get s) v).2 := by
  have hgiven :
      Continues p (· = s.id) v (noting (.answered s.id) (c.constructLogged get s) v).2 := by
    obtain ⟨result, hbuilt, hresult⟩ := @constructLogged_builtin _ c get _ v _ horigin
    rw [noting, hbuilt]
    cases result with
    | error e => exact .refl hv
    | ok i =>
      rw [hresult i rfl]
      exact continues_note hv hs ((hv.fair s hs).given horigin)
  by_cases hcontainer : s.origin = .builtin .container
  · rwa [answerLogged, if_pos hcontainer]
  cases hsingle : s.singleton with
  | false => rwa [answerLogged_of_transient hsingle]
  | true =>
    cases b with
    | container => exact absurd horigin hcontainer
    | config =>
      have hfair := hv.fair s hs
      rw [noting, answerLogged_of_singleton hcontainer hsingle, constructLogged_config horigin]
      cases hmemo : v.singletons.lookup s.id with
      | some i =>
        rw [hmemo] at hfair
        exact continues_note hv hs (hmemo ▸ hfair.again)
      | none =>
        simp only [Serving.remember, hmemo]
        refine hv.update hs [.answered s.id .config] 0 (by simp [Happening.id]) rfl ?_ ?_
          rfl rfl
        · exact fun u hu => lookup_append_ne hu _ _
        · simpa [World.note, lookup_append_self hmemo, Builtin.instance] using
            (hfair.keep horigin hsingle).given horigin

/-- A request for a service answers with what is remembered, or builds it. While its arguments are
evaluated nothing is remembered under its own identifier. -/
theorem continues_answer {S : String → Prop} (hv : Recorded p v) (hs : p.service? s.id = some s)
    (hself : ¬ S s.id) (hargs : Continues p S v (argValues c.registry.logging get s.args v).2) :
    Continues p (fun u => S u ∨ u = s.id) v
      (noting (.answered s.id) (c.answerLogged get s) v).2 := by
  by_cases hbuiltin : ∃ b, s.origin = .builtin b
  · obtain ⟨b, horigin⟩ := hbuiltin
    exact (continues_builtin hv hs horigin).mono fun _ => .inr
  have hnot : ∀ b, s.origin ≠ .builtin b := fun b h => hbuiltin ⟨b, h⟩
  generalize hv₁ : (argValues c.registry.logging get s.args v).2 = v₁ at hargs
  have hfair₁ := hargs.recorded.fair s hs
  cases hsingle : s.singleton with
  | false =>
    rw [noting, answerLogged_of_transient hsingle]
    rcases constructLogged_cases hnot hv₁ with ⟨e, own, h⟩ | ⟨type, label, own, h⟩
    · rw [h]
      exact (hargs.trans (.own hargs.recorded own)).mono fun _ => .inl
    · rw [h]
      refine (hargs.mono fun _ => .inl).trans (.mono ?_ fun _ => .inr)
      refine hargs.recorded.update hs [.built s.id _, .answered s.id _] 1
        (by simp [Happening.id]) (List.append_assoc ..) (fun _ _ => rfl) ?_ rfl rfl
      simpa [World.note] using hfair₁.anew hnot hsingle
  | true =>
    rw [noting, answerLogged_of_singleton (hnot _) hsingle]
    cases hmemo : v.singletons.lookup s.id with
    | some i =>
      have hfair := hv.fair s hs
      rw [hmemo] at hfair
      exact (continues_note hv hs (hmemo ▸ hfair.again)).mono fun _ => .inr
    | none =>
      -- the arguments lead to other services only, so this is the first instance
      have hmemo₁ : v₁.singletons.lookup s.id = none := (hargs.untouched _ hself).trans hmemo
      rcases constructLogged_cases hnot hv₁ with ⟨e, own, h⟩ | ⟨type, label, own, h⟩
      · rw [h]
        exact (hargs.trans (.own hargs.recorded own)).mono fun _ => .inl
      · rw [h]
        simp only [Serving.remember, hmemo₁]
        refine (hargs.mono fun _ => .inl).trans (.mono ?_ fun _ => .inr)
        refine hargs.recorded.update hs [.built s.id _, .answered s.id _] 1
          (by simp [Happening.id]) (List.append_assoc ..) ?_ ?_ rfl rfl
        · exact fun u hu => lookup_append_ne hu _ _
        · rw [hmemo₁] at hfair₁
          simpa [World.note, lookup_append_self hmemo₁] using hfair₁.first hnot hsingle

/-- Answering a request only adds to the log, if evaluating the arguments does. -/
theorem grows_answerLogged (hargs : v.log <+: (argValues c.registry.logging get s.args v).2.log) :
    v.log <+: (c.answerLogged get s v).2.log := by
  have hbuild : v.log <+: (c.constructLogged get s v).2.log := by
    by_cases hbuiltin : ∃ b, s.origin = .builtin b
    · obtain ⟨b, horigin⟩ := hbuiltin
      obtain ⟨result, hbuilt, -⟩ := @constructLogged_builtin _ c get _ v _ horigin
      rw [hbuilt]
    · rcases constructLogged_cases (fun b h => hbuiltin ⟨b, h⟩) rfl with
        ⟨e, own, h⟩ | ⟨type, label, own, h⟩
      · rw [h]
        exact hargs
      · rw [h]
        exact hargs.trans (List.prefix_append _ _)
  by_cases hcontainer : s.origin = .builtin .container
  · rwa [answerLogged, if_pos hcontainer]
  cases hsingle : s.singleton with
  | false => rwa [answerLogged_of_transient hsingle]
  | true =>
    rw [answerLogged_of_singleton hcontainer hsingle]
    cases v.singletons.lookup s.id with
    | some i => exact List.prefix_rfl
    | none =>
      rcases hconstruct : c.constructLogged get s v with ⟨e | i, v₁⟩
      all_goals rw [hconstruct] at hbuild
      · exact hbuild
      · simp only [Serving.remember]
        cases v₁.singletons.lookup s.id with
        | some first | none => exact hbuild

/-- What every request for what an argument refers to keeps is kept while arguments are evaluated.
-/
theorem keeps_argValues {P : World (τ × Log) → Prop} {args : List (String × Argument)}
    (h : ∀ arg ∈ args, ∀ z, arg.2.Refers z → ∀ v, P v → P (get z v).2) (hv : P v) :
    P (argValues c.registry.logging get args v).2 := by
  -- a computation mirrors itself on equal states that satisfy `P`
  have hrelated : Mirrors (fun w v => w = v ∧ P v) (argValues c.registry.logging get args)
      (argValues c.registry.logging get args) := by
    refine related_argValues ⟨rfl, fun _ => rfl⟩ ?_ fun arg harg z hz => ?_
    · rintro _ _ ⟨rfl, _⟩
      rfl
    · rintro _ v ⟨rfl, hv⟩
      exact ⟨rfl, rfl, h arg harg z hz _ hv⟩
  exact (hrelated v v ⟨rfl, hv⟩).2.2

end

/-! ## Any number of requests -/

section
variable {τ : Type} {c : Container τ}

/-- Getting a service keeps the invariant, and remembers nothing but services that the identifier
refers to, directly or through others. -/
theorem continues_getLogged (hp : c.plan.Coherent) (steps : Nat) (id : String) {v : World (τ × Log)}
    (hv : Recorded c.plan v) :
    Continues c.plan (ReflTransGen c.plan.Refers id) v (c.getLogged steps id v).2 := by
  induction steps generalizing id v with
  | zero => exact .refl hv
  | succ steps ih =>
    rw [getLogged]
    cases hs : c.plan.resolve? id with
    | none => exact .refl hv
    | some s =>
      obtain ⟨trail, hl⟩ := ContainerPlan.resolve?_eq_some_iff.1 hs
      have hargs : Continues c.plan (TransGen c.plan.Refers s.id) v
          (argValues c.registry.logging (c.getLogged steps) s.args v).2 := by
        refine keeps_argValues (fun arg harg z hz v' hv' => ?_) (.refl hv)
        have hstep : c.plan.Refers s.id z := .service hl.service_mem harg hz
        exact hv'.trans ((ih z hv'.recorded).mono fun u hu => .head' hstep hu)
      refine (continues_answer hv hl.service? (hp.acyclic s.id) hargs).mono fun u hu => ?_
      rcases hu with hu | rfl
      · exact hl.reaches.trans hu.to_reflTransGen
      · exact hl.reaches

/-- Getting a service only adds to the log, and ends with the answer if there is one. -/
theorem grows_getLogged (steps : Nat) (id : String) (v : World (τ × Log)) : ∃ more,
    (c.getLogged steps id v).2.log = v.log ++ more ∧ ∀ i, (c.getLogged steps id v).1 = .ok i →
      ∃ s before, c.plan.resolve? id = some s ∧ more = before ++ [.answered s.id i] := by
  induction steps generalizing id v with
  | zero =>
    refine ⟨[], (List.append_nil _).symm, fun i h => ?_⟩
    cases h
  | succ steps ih =>
    rw [getLogged]
    cases c.plan.resolve? id with
    | none =>
      refine ⟨[], (List.append_nil _).symm, fun i h => ?_⟩
      cases h
    | some s =>
      have hargs : v.log <+: (argValues c.registry.logging (c.getLogged steps) s.args v).2.log := by
        refine keeps_argValues (P := fun v' => v.log <+: v'.log) (fun _ _ z _ v' hv' => ?_)
          List.prefix_rfl
        obtain ⟨more, hmore, -⟩ := ih z v'
        exact hv'.trans ⟨more, hmore.symm⟩
      obtain ⟨more, hmore⟩ := grows_answerLogged hargs
      simp only [noting]
      rcases hanswer : c.answerLogged (c.getLogged steps) s v with ⟨e | i, v₁⟩
      all_goals rw [hanswer] at hmore
      · refine ⟨more, hmore.symm, fun i h => ?_⟩
        cases h
      · refine ⟨more ++ [.answered s.id i], ?_, ?_⟩
        · rw [World.log_note, ← hmore, List.append_assoc]
        · rintro _ ⟨⟩
          exact ⟨s, more, rfl, rfl⟩

/-- A request keeps the invariant. -/
theorem recorded_get (hp : c.plan.Coherent) (id : String) {w : World τ} {log : Log}
    (h : Recorded c.plan (w.withLog log)) :
    Recorded c.plan ((c.get id w).2.withLog (c.logAfter id w log)) := by
  have hcontinues := continues_getLogged hp c.depth id h
  rw [getLogged_eq] at hcontinues
  exact hcontinues.recorded

/-- The states that requests leave one after the other, with the log of what happened. Between two
requests the application may change its own state and the environment, and it may take the container
out of what shares it. -/
inductive Session (c : Container τ) : World τ → Log → Prop
  | start (env : Variables) (own : τ) : Session c { env, own } []
  | between {w : World τ} {log : Log} (env : Variables) (own : τ) : Session c w log →
      Session c { w with env, own } log
  | get {w : World τ} {log : Log} (isShared : Bool) (id : String) : Session c w log →
      Session c ({ c with isShared }.get id w).2 ({ c with isShared }.logAfter id w log)

/-- However many requests there are the invariant holds. -/
theorem Session.recorded (hp : c.plan.Coherent) {w : World τ} {log : Log} (h : Session c w log) :
    Recorded c.plan (w.withLog log) := by
  induction h with
  | start env own => exact .start c.plan env own
  | between env own _ ih => exact ⟨ih.fair, ih.known, ih.numbered⟩
  | get isShared id _ ih => exact recorded_get (c := { c with isShared }) hp id ih

end

end Container

/-- How instances are shared, as far as a log tells. -/
structure Sharing {τ : Type} (p : ContainerPlan) (w : World τ) (log : Log) : Prop where
  /-- A singleton was built at most once. -/
  once : ∀ s, p.service? s.id = some s → s.singleton = true → (log.builtAs s.id).length ≤ 1
  /-- All requests for a singleton were answered with the same instance. -/
  same : ∀ s, p.service? s.id = some s → s.singleton = true →
    ∀ i ∈ log.answersOf s.id, ∀ j ∈ log.answersOf s.id, i = j
  /-- Each request for a service that is no singleton was answered with what was built for it. -/
  anew : ∀ s, p.service? s.id = some s → s.singleton = false → (∀ b, s.origin ≠ .builtin b) →
    log.builtAs s.id = log.answersOf s.id
  /-- What is built in was never built, and each request for it was answered with it. -/
  builtin : ∀ s b, p.service? s.id = some s → s.origin = .builtin b →
    log.builtAs s.id = [] ∧ ∀ i ∈ log.answersOf s.id, i = b.instance
  /-- No two instances that were built are the same, and there are as many as were counted. -/
  distinct : log.allBuilt.Nodup ∧ log.allBuilt.length = w.built
  /-- Only singletons are remembered, with what was built for them; and the configuration. -/
  remembered : ∀ id i, w.singletons.lookup id = some i → ∃ s, p.service? id = some s ∧
    s.singleton = true ∧ (i ∈ log.builtAs id ∨ s.origin = .builtin .config ∧ i = .config)

/-- The invariant says how instances are shared. -/
theorem Recorded.sharing {τ : Type} {p : ContainerPlan} {w : World τ} {log : Log}
    (h : Recorded p (w.withLog log)) : Sharing p w log where
  once s hs := (h.fair s hs).length_le_one
  same s hs := (h.fair s hs).answers_eq
  anew s hs := (h.fair s hs).built_eq
  builtin s _ hs := (h.fair s hs).of_builtin
  distinct := by
    have hnumbered : log.allBuilt.map Instance.serial? = (List.range' 1 w.built).map some :=
      h.numbered
    constructor
    · refine List.Nodup.of_map Instance.serial? ?_
      rw [hnumbered]
      exact (List.nodup_range' ..).map (Option.some_injective _)
    · simpa using congrArg List.length hnumbered
  remembered id i hi := by
    obtain ⟨s, hs⟩ := h.known id i hi
    obtain rfl := (ContainerPlan.service?_mem hs).2
    have hfair := h.fair s hs
    rw [show (w.withLog log).singletons.lookup s.id = some i from hi] at hfair
    exact ⟨s, hs, hfair.of_memo⟩

namespace Container

/-- On a plan that was resolved, however many services are asked for and whatever fails: a singleton
is built at most once and shared by all who ask, directly, through an alias or for an argument; any
other service that is not built in is built anew for each; and what a request that failed leaves
remembered are singletons that were built. The log of a request comes after those of the requests
before, and ends with the answer. -/
theorem session_shared {τ : Type} (services : ServiceMap) (c : Container τ)
    (hc : c.plan = (ServiceGraph.resolve services).1) {w : World τ} {log : Log}
    (h : Session c w log) : Sharing c.plan w log ∧ ∀ id, ∃ more, c.logAfter id w log = log ++ more ∧
      ∀ i, (c.get id w).1 = .ok i →
        ∃ s before, c.plan.resolve? id = some s ∧ more = before ++ [.answered s.id i] := by
  refine ⟨(h.recorded (hc ▸ ServiceGraph.coherent_resolve services)).sharing, fun id => ?_⟩
  have hgrows := grows_getLogged (c := c) c.depth id (w.withLog log)
  rwa [getLogged_eq] at hgrows

/-- A mailer that is no singleton, and the journal it writes to, under two names. -/
def mailers : ServiceMap where
  entries := [
    ("Mailer", .service {
      className := "Mailer", params := [("log", .service "Log" none)], singleton := false }),
    ("Log", .alias "Journal"),
    ("Journal", .service { className := "Journal" })]
  nodup := by decide

/-- Functions for the mailers, which count how often a mailer was called for. The first time fails.
-/
def mailerFunctions : Registry Nat where
  constructors := [
    ("Mailer", fun _ _ calls =>
      if calls = 0 then (.error (.handler "no host" 500), 1) else (.ok ⟨"Mailer", ""⟩, calls + 1)),
    ("Journal", fun _ _ calls => (.ok ⟨"Journal", ""⟩, calls))]

/-- The first mailer fails when its journal is built; the journal stays, and two mailers share it.
-/
theorem session_shared_mailers :
    let c : Container Nat :=
      { plan := (ServiceGraph.resolve mailers).1, registry := mailerFunctions }
    let w₀ : World Nat := { own := 0 }
    let w₁ := (c.get "Mailer" w₀).2
    let w₂ := (c.get "Mailer" w₁).2
    let w₃ := (c.get "Mailer" w₂).2
    let w := (c.get "Log" w₃).2
    let log := c.logAfter "Log" w₃ (c.logAfter "Mailer" w₂
      (c.logAfter "Mailer" w₁ (c.logAfter "Mailer" w₀ [])))
    (c.get "Mailer" w₀).1 = .error (.handler "no host" 500) ∧
      w₁.singletons = [("Journal", .object "Journal" "" 1)] ∧
      log.answersOf "Mailer" = [.object "Mailer" "" 2, .object "Mailer" "" 3] ∧
      log.answersOf "Journal" = List.replicate 4 (.object "Journal" "" 1) ∧
        Sharing c.plan w log := by
  refine ⟨by decide +kernel, by decide +kernel, by decide +kernel, by decide +kernel, ?_⟩
  exact (session_shared mailers _ rfl (.get true "Log" (.get true "Mailer"
    (.get true "Mailer" (.get true "Mailer" (.start {} 0)))))).1

/-- The configuration, registered as no singleton. -/
def settings : ServiceMap where
  entries := [("Settings", .service {
    className := "Config", singleton := false, origin := .builtin .config })]
  nodup := by decide

/-- What is built in is not built anew, be it no singleton: two requests get the same. -/
theorem answersOf_settings :
    let c : Container Unit := { plan := (ServiceGraph.resolve settings).1, registry := {} }
    let w₁ := (c.get "Settings" { own := () }).2
    let log := c.logAfter "Settings" w₁ (c.logAfter "Settings" { own := () } [])
    (c.plan.service? "Settings").map (·.singleton) = some false ∧
      Session c (c.get "Settings" w₁).2 log ∧ log.builtAs "Settings" = [] ∧
      log.answersOf "Settings" = [.config, .config] := by
  refine ⟨by decide +kernel, ?_, by decide +kernel, by decide +kernel⟩
  exact .get true "Settings" (.get true "Settings" (.start {} ()))

end Container

end Wiring
