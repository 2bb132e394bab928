import Mathlib.Logic.Function.Basic
import Wiring.Proofs.Disk.Run

/-!
# Jobs that share a machine

Several processes work on one machine, each at a job of its own, and their requests come in any
order (`Interleaved`). A process may stop anywhere, and what a request does may be seen half done by
the others. What holds of a process whatever the others do is proved along its job alone
(`Job.Works`): its own steps keep to a rule, and between them any steps may happen that keep to the
rules of the others. If every process works so, each of them comes as far as it does alone among
such steps (`Interleaved.leads`).
-/

namespace Wiring.Disk

/-- A machine that processes share, with the requests that were answered so far, the last one last.
-/
structure Shared (ι : Type) where
  machine : Machine
  log : List (ι × Exchange) := []

namespace Shared

variable {ι : Type}

/-- The machine after a request of a process was answered. -/
def answered (s : Shared ι) (p : ι) (r : Request) (a : r.Answer) (m : Machine) : Shared ι :=
  ⟨m, s.log ++ [(p, ⟨r, a⟩)]⟩

/-- The requests of a process that were answered, in order. -/
def exchanges [DecidableEq ι] (s : Shared ι) (p : ι) : List Exchange :=
  s.log.filterMap fun e => if e.1 = p then some e.2 else none

/-- An answer is one more exchange of the process that asked. -/
theorem exchanges_answered [DecidableEq ι] (s : Shared ι) (p : ι) (r : Request) (a : r.Answer)
    (m : Machine) : (s.answered p r a m).exchanges p = s.exchanges p ++ [⟨r, a⟩] := by
  simp [exchanges, answered]

/-- What others log does not count for a process. -/
theorem exchanges_of_ne [DecidableEq ι] {s s' : Shared ι} {p q : ι} {new : List Exchange}
    (h : s'.log = s.log ++ new.map (q, ·)) (hq : q ≠ p) : s'.exchanges p = s.exchanges p := by
  simp [exchanges, h, hq]

end Shared

/-- One step of a process: some of what its request asks for is done, or the request is answered. -/
inductive Advances {ι α : Type} (p : ι) : Job α → Shared ι → Job α → Shared ι → Prop
  | part {s : Shared ι} {r : Request} {next : r.Answer → Job α} {m : Machine}
    (h : Interrupted s.machine r m) :
    Advances p (.ask r next) s (.ask r next) { s with machine := m }
  | answer {s : Shared ι} {r : Request} {next : r.Answer → Job α} {a : r.Answer} {m : Machine}
    (h : Responds s.machine r a m) : Advances p (.ask r next) s (next a) (s.answered p r a m)

/-- How far processes come when they take turns in any order. -/
inductive Interleaved {ι : Type} [DecidableEq ι] {α : ι → Type} (jobs : (p : ι) → Job (α p))
    (s : Shared ι) : ((p : ι) → Job (α p)) → Shared ι → Prop
  | start : Interleaved jobs s jobs s
  | step {jobs' : (p : ι) → Job (α p)} {s' s'' : Shared ι} {p : ι} {job : Job (α p)}
    (h : Interleaved jobs s jobs' s') (hp : Advances p (jobs' p) s' job s'') :
    Interleaved jobs s (Function.update jobs' p job) s''

/-- How far a process comes with its job when steps of other processes happen in between, each of
which keeps to the rule of its process. -/
inductive Leads {ι α : Type} (rule : ι → Shared ι → Shared ι → Prop) (p : ι) (job : Job α)
    (s : Shared ι) : Job α → Shared ι → Prop
  | start : Leads rule p job s job s
  | own {job' job'' : Job α} {s' s'' : Shared ι} (h : Leads rule p job s job' s')
    (hp : Advances p job' s' job'' s'') : Leads rule p job s job'' s''
  | other {job' : Job α} {s' s'' : Shared ι} {q : ι} (h : Leads rule p job s job' s') (hq : q ≠ p)
    (hrule : rule q s' s'') : Leads rule p job s job' s''

section
variable {ι α β : Type} {rule : ι → Shared ι → Shared ι → Prop} {p : ι} {s s' s'' : Shared ι}
  {job job' job'' : Job α}

/-- What other processes do does not make it false. -/
def Stable (rule : ι → Shared ι → Shared ι → Prop) (p : ι) (holds : Shared ι → Prop) : Prop :=
  ∀ q ≠ p, ∀ s s', rule q s s' → holds s → holds s'

/-- A job that is done stays done, and what holds then stays true. -/
theorem Leads.of_done {holds : Shared ι → Prop} {a : α} (h : Leads rule p (.done a) s job' s')
    (hstable : Stable rule p holds) (hs : holds s) : job' = .done a ∧ holds s' := by
  induction h with
  | start => exact ⟨rfl, hs⟩
  | own _ hp ih =>
    obtain ⟨rfl, -⟩ := ih
    cases hp
  | other _ hq hrule ih => exact ⟨ih.1, hstable _ hq _ _ hrule ih.2⟩

/-- A job that asks for something waits, or goes on with the answer it has got. -/
theorem Leads.of_ask {holds : Shared ι → Prop} {r : Request} {next : r.Answer → Job α}
    (h : Leads rule p (.ask r next) s job' s') (hstable : Stable rule p holds) (hs : holds s)
    (hpart : ∀ s m, holds s → Interrupted s.machine r m → holds { s with machine := m }) :
    (job' = .ask r next ∧ holds s') ∨
      ∃ s₀ a m, holds s₀ ∧ Responds s₀.machine r a m ∧
        Leads rule p (next a) (s₀.answered p r a m) job' s' := by
  induction h with
  | start => exact .inl ⟨rfl, hs⟩
  | own _ hp ih =>
    rcases ih with ⟨rfl, hholds⟩ | ⟨s₀, a, m, hholds, ha, hleads⟩
    · cases hp with
      | part h => exact .inl ⟨rfl, hpart _ _ hholds h⟩
      | answer h => exact .inr ⟨_, _, _, hholds, h, .start⟩
    · exact .inr ⟨s₀, a, m, hholds, ha, hleads.own hp⟩
  | other _ hq hrule ih =>
    rcases ih with ⟨rfl, hholds⟩ | ⟨s₀, a, m, hholds, ha, hleads⟩
    · exact .inl ⟨rfl, hstable _ hq _ _ hrule hholds⟩
    · exact .inr ⟨s₀, a, m, hholds, ha, hleads.other hq hrule⟩

/-- A job that is followed by another is still at work, or came to a result that the other goes on
with. -/
theorem Leads.of_bind {f : α → Job β} {rest : Job β} (h : Leads rule p (job >>= f) s rest s') :
    (∃ job', rest = job' >>= f ∧ Leads rule p job s job' s') ∨
      ∃ a s₁, Leads rule p job s (.done a) s₁ ∧ Leads rule p (f a) s₁ rest s' := by
  induction h with
  | start => exact .inl ⟨job, rfl, .start⟩
  | @own rest rest' s' s'' _ hp ih =>
    rcases ih with ⟨job', rfl, hjob⟩ | ⟨a, s₁, hjob, hrest⟩
    · cases job' with
      | done a => exact .inr ⟨a, s', hjob, .own .start hp⟩
      | ask r next =>
        cases hp with
        | part h => exact .inl ⟨_, rfl, hjob.own (.part h)⟩
        | answer h => exact .inl ⟨_, rfl, hjob.own (.answer h)⟩
    · exact .inr ⟨a, s₁, hjob, hrest.own hp⟩
  | other _ hq hrule ih =>
    rcases ih with ⟨job', rfl, hjob⟩ | ⟨a, s₁, hjob, hrest⟩
    · exact .inl ⟨job', rfl, hjob.other hq hrule⟩
    · exact .inr ⟨a, s₁, hjob, hrest.other hq hrule⟩

/-- A process works at a job from a shared machine on, whatever the others do within their rules:
its own steps keep to its rule, and if it comes to a result, `post` holds from then on. -/
structure Job.Works (rule : ι → Shared ι → Shared ι → Prop) (p : ι) (job : Job α) (s : Shared ι)
    (post : α → Shared ι → Prop) : Prop where
  keeps : ∀ {job' job'' s' s''}, Leads rule p job s job' s' → Advances p job' s' job'' s'' →
    rule p s' s''
  completed : ∀ {a s'}, Leads rule p job s (.done a) s' → post a s'

namespace Job.Works

variable {post post' : α → Shared ι → Prop}

/-- What a process works towards may be weakened. -/
theorem imp (h : job.Works rule p s post) (hpost : ∀ a s, post a s → post' a s) :
    job.Works rule p s post' :=
  ⟨h.keeps, fun hl => hpost _ _ (h.completed hl)⟩

/-- A job that is done works towards what holds of its result, if others leave that alone. -/
theorem done {a : α} (hstable : Stable rule p (post a)) (h : post a s) :
    (Job.done a).Works rule p s post := by
  constructor
  · intro job' job'' s' s'' hl hp
    obtain ⟨rfl, -⟩ := hl.of_done hstable h
    cases hp
  · intro b s' hl
    obtain ⟨hb, hpost⟩ := hl.of_done hstable h
    cases hb
    exact hpost

/-- A job that has failed has nothing to show. -/
theorem error {ε : Type} {e : ε} {post : α → Shared ι → Prop} :
    (Job.done (.error e) : Job (Except ε α)).Works rule p s fun result s' =>
      ∀ a, result = .ok a → post a s' :=
  done (fun _ _ _ _ _ _ => Result.of_error_eq_ok) Result.of_error_eq_ok

/-- A request may be answered at any machine on which what held before still does. -/
theorem ask {r : Request} {next : r.Answer → Job α} (holds : Shared ι → Prop)
    (hstable : Stable rule p holds) (hs : holds s)
    (hpart : ∀ s m, holds s → Interrupted s.machine r m →
      rule p s { s with machine := m } ∧ holds { s with machine := m })
    (hanswer : ∀ s a m, holds s → Responds s.machine r a m →
      rule p s (s.answered p r a m) ∧ (next a).Works rule p (s.answered p r a m) post) :
    (Job.ask r next).Works rule p s post := by
  have hcases {job' s'} (hl : Leads rule p (.ask r next) s job' s') :=
    hl.of_ask hstable hs fun s m hholds h => (hpart s m hholds h).2
  constructor
  · intro job' job'' s' s'' hl hp
    rcases hcases hl with ⟨rfl, hholds⟩ | ⟨s₀, a, m, hholds, ha, hl'⟩
    · cases hp with
      | part h => exact (hpart _ _ hholds h).1
      | answer h => exact (hanswer _ _ _ hholds h).1
    · exact (hanswer s₀ a m hholds ha).2.keeps hl' hp
  · intro a s' hl
    rcases hcases hl with ⟨hjob, -⟩ | ⟨s₀, a, m, hholds, ha, hl'⟩
    · cases hjob
    · exact (hanswer s₀ a m hholds ha).2.completed hl'

/-- A job, and then the one that its result asks for. -/
theorem bind {f : α → Job β} {post : β → Shared ι → Prop}
    (h : job.Works rule p s fun a s' => (f a).Works rule p s' post) :
    (job >>= f).Works rule p s post := by
  constructor
  · intro rest rest' s' s'' hl hp
    rcases hl.of_bind with ⟨job', rfl, hjob⟩ | ⟨a, s₁, hjob, hrest⟩
    · cases job' with
      | done a => exact (h.completed hjob).keeps .start hp
      | ask r next =>
        cases hp with
        | part hm => exact h.keeps hjob (.part hm)
        | answer ha => exact h.keeps hjob (.answer ha)
    · exact (h.completed hjob).keeps hrest hp
  · intro b s' hl
    rcases hl.of_bind with ⟨job', hb, hjob⟩ | ⟨a, s₁, hjob, hrest⟩
    · cases job' with
      | done a => exact (h.completed hjob).completed (hb ▸ .start)
      | ask r next => cases hb
    · exact (h.completed hjob).completed hrest

/-- Work that may fail, and then the work that its result asks for. -/
theorem bindExcept {ε : Type} {x : ExceptT ε Job α} {f : α → ExceptT ε Job β}
    {between : α → Shared ι → Prop} {post : β → Shared ι → Prop}
    (hx : x.run.Works rule p s fun result s' => ∀ a, result = .ok a → between a s')
    (hf : ∀ a s', between a s' →
      (f a).run.Works rule p s' fun result s'' => ∀ b, result = .ok b → post b s'') :
    (x >>= f).run.Works rule p s fun result s' => ∀ b, result = .ok b → post b s' := by
  rw [ExceptT.run_bind]
  refine .bind (hx.imp ?_)
  rintro (e | a) s' hs'
  · exact .error
  · exact hf a s' (hs' a rfl)

end Job.Works

end

section
variable {ι : Type} [DecidableEq ι] {α : ι → Type} {jobs jobs' jobs'' : (p : ι) → Job (α p)}
  {s s' s'' : Shared ι}

/-- Processes that all keep to their rules come as far as each of them does alone among steps that
keep to the rules of the others. -/
theorem Interleaved.leads {rule : ι → Shared ι → Shared ι → Prop}
    {post : (p : ι) → α p → Shared ι → Prop} (h : Interleaved jobs s jobs' s')
    (hworks : ∀ p, (jobs p).Works rule p s (post p)) (p : ι) :
    Leads rule p (jobs p) s (jobs' p) s' := by
  induction h generalizing p with
  | start => exact .start
  | @step jobs' s' s'' q job _ hq ih =>
    by_cases hp : p = q
    · subst hp
      rw [Function.update_self]
      exact (ih p).own hq
    · rw [Function.update_of_ne hp]
      exact (ih p).other (Ne.symm hp) ((hworks q).keeps (ih q) hq)

/-- Turns may be followed by more turns. -/
theorem Interleaved.trans (h : Interleaved jobs s jobs' s') (h' : Interleaved jobs' s' jobs'' s'') :
    Interleaved jobs s jobs'' s'' := by
  induction h' with
  | start => exact h
  | step _ hp ih => exact ih.step hp

/-- A process may come to the end of its job without any step of the others in between. -/
theorem exists_interleaved_run (jobs : (p : ι) → Job (α p)) (s : Shared ι) (p : ι) :
    ∃ log, Interleaved jobs s (Function.update jobs p (.done (s.machine.run (jobs p)).1))
      ⟨(s.machine.run (jobs p)).2, log⟩ := by
  generalize hjob : jobs p = job
  induction job generalizing jobs s with
  | done a =>
    refine ⟨s.log, ?_⟩
    rw [Machine.run, ← hjob, Function.update_eq_self]
    exact .start
  | ask r next ih =>
    have hstep : Advances p (jobs p) s (next (s.machine.answer r).1)
        (s.answered p r (s.machine.answer r).1 (s.machine.answer r).2) := by
      rw [hjob]
      exact .answer .answers
    obtain ⟨log, hlog⟩ := ih _ (Function.update jobs p (next (s.machine.answer r).1))
      (s.answered p r (s.machine.answer r).1 (s.machine.answer r).2) (Function.update_self ..)
    rw [Function.update_idem] at hlog
    exact ⟨log, (Interleaved.start.step hstep).trans hlog⟩

/-- Processes may come to the end of their jobs one after the other. -/
theorem exists_interleaved_runs (jobs : (p : ι) → Job (α p)) (s : Shared ι) (ps : List ι) (q : ι)
    (h : (ps ++ [q]).Nodup) {m : Machine}
    (hm : m = ps.foldl (fun m p => (m.run (jobs p)).2) s.machine) :
    ∃ jobs' log, Interleaved jobs s jobs' ⟨(m.run (jobs q)).2, log⟩ ∧
      jobs' q = .done (m.run (jobs q)).1 := by
  induction ps generalizing jobs s with
  | nil =>
    obtain ⟨log, hlog⟩ := exists_interleaved_run jobs s q
    subst hm
    exact ⟨_, log, hlog, Function.update_self ..⟩
  | cons p ps ih =>
    obtain ⟨hp, hps⟩ := List.nodup_cons.1 h
    obtain ⟨log, hlog⟩ := exists_interleaved_run jobs s p
    have hsame {p'} (hp' : p' ∈ ps ++ [q]) :
        Function.update jobs p (.done (s.machine.run (jobs p)).1) p' = jobs p' := by
      refine Function.update_of_ne ?_ ..
      rintro rfl
      exact hp hp'
    obtain ⟨jobs', log', hrest, hq⟩ :=
      ih (Function.update jobs p (.done (s.machine.run (jobs p)).1))
      ⟨(s.machine.run (jobs p)).2, log⟩ hps <| by
        rw [hm, List.foldl_cons]
        exact List.foldl_ext _ _ _ fun m p' hp' => by rw [hsame (List.mem_append_left _ hp')]
    rw [hsame (List.mem_append_right _ (.head _))] at hrest hq
    exact ⟨jobs', log', hlog.trans hrest, hq⟩

end

end Wiring.Disk
