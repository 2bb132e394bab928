import Wiring.Disk.Job
import Wiring.Proofs.Disk.Tree

/-!
# Jobs that are stopped or refused

A job need not come to its end as `Machine.run` has it. The machine may stop at any request, and it
may refuse a request for reasons that the file tree does not show, in both cases with part of the
work done (`Interrupted`). `Runs` tells how far a job comes on such a machine, and what it leaves.
What holds of all these runs (`Job.Meets`) is proved along the job: one rule for each kind of
request and one for a job followed by another (`Meets.bind`). The same is done for what holds when a
job comes to a result and all that it removed on the way is gone (`Job.Ensures`).
-/

namespace Wiring.Disk

/-- What a request leaves behind that is not carried out to its end. A file that was to be written
may have any text, and any number of the directories that were to be made may be there. Moving and
removing a file is done or not done. -/
inductive Interrupted (m : Machine) : Request → Machine → Prop
  | untouched (r : Request) : Interrupted m r m
  | written {p : Path} {part text : String} {t : Tree} (h : m.tree.write p part = .ok t) :
    Interrupted m (.write p text) { m with tree := t }
  | made (p : Path) (n : Nat) : Interrupted m (.createDirs p)
    { m with tree := (m.tree.createFrom m.tree.work (p.components.take n)).1 }

/-- The answer to a request that the machine refuses for reasons of its own, if it may do so. -/
def Request.refusal? : (r : Request) → Option r.Answer
  | .read _ => some (.error .unsuitable)
  | .write _ _ => some (.error .unsuitable)
  | .createDirs _ => some (.error .unsuitable)
  | .rename _ _ => some (.error .unsuitable)
  | .remove _ => some (.error .unsuitable)
  | .walk _ => some (.error .unsuitable)
  | .isFile _ | .isDirectory _ | .envValue _ | .setEnv _ _ => none

/-- What a machine may answer to a request, and what the machine is afterwards. -/
inductive Responds (m : Machine) (r : Request) : r.Answer → Machine → Prop
  | answers : Responds m r (m.answer r).1 (m.answer r).2
  | refuses {a : r.Answer} {m' : Machine} (ha : r.refusal? = some a) (hm : Interrupted m r m') :
    Responds m r a m'

/-- A request with its answer. -/
abbrev Exchange : Type :=
  (r : Request) × r.Answer

/-- Whether a request to remove a file, if it is one, was carried out: the file is gone or was
missing. -/
def Exchange.removes : Exchange → Bool
  | ⟨.remove _, .error .unsuitable⟩ => false
  | _ => true

/-- How far a job comes: the requests that are answered, the machine afterwards, and the result if
the machine does not stop at one of the requests. -/
inductive Runs {α : Type} : Job α → Machine → List Exchange → Machine → Option α → Prop
  | done (a : α) (m : Machine) : Runs (.done a) m [] m (some a)
  | stop {m m' : Machine} {r : Request} {next : r.Answer → Job α} (h : Interrupted m r m') :
    Runs (.ask r next) m [] m' none
  | ask {m m₁ m' : Machine} {r : Request} {next : r.Answer → Job α} {a : r.Answer}
    {events : List Exchange} {result? : Option α} (ha : Responds m r a m₁)
    (h : Runs (next a) m₁ events m' result?) : Runs (.ask r next) m (⟨r, a⟩ :: events) m' result?

/-- What is asked of a machine that answers all requests of a job. -/
def Machine.exchanges {α : Type} (m : Machine) : Job α → List Exchange
  | .done _ => []
  | .ask r next =>
    let (answer, m) := m.answer r
    ⟨r, answer⟩ :: m.exchanges (next answer)

section
variable {α β : Type} {m m' : Machine} {r : Request} {p q : Path} {text : String}

/-- A machine that answers all requests runs a job to its end. -/
theorem runs_exchanges (m : Machine) (job : Job α) :
    Runs job m (m.exchanges job) (m.run job).2 (some (m.run job).1) := by
  induction job generalizing m with
  | done a => exact .done a m
  | ask r next ih => exact .ask .answers (ih (m.answer r).1 (m.answer r).2)

/-- A job that is not stopped has a run. -/
theorem runs_run (m : Machine) (job : Job α) :
    ∃ events, Runs job m events (m.run job).2 (some (m.run job).1) :=
  ⟨_, runs_exchanges m job⟩

/-- The run of a job that fails. -/
theorem exists_runs_of_failed {ε : Type} {job : Job (Except ε α)} (h : (m.run job).1.isOk = false) :
    ∃ e, Runs job m (m.exchanges job) (m.run job).2 (some (.error e)) := by
  have hr := runs_exchanges m job
  cases hresult : (m.run job).1 with
  | ok a =>
    rw [hresult] at h
    cases h
  | error e =>
    rw [hresult] at hr
    exact ⟨e, hr⟩

/-- A job that is done asks for nothing and leaves the machine as it is. -/
theorem Runs.of_done {a : α} {events : List Exchange} {result? : Option α}
    (h : Runs (.done a) m events m' result?) : m' = m ∧ events = [] ∧ result? = some a := by
  cases h with
  | done => exact ⟨rfl, rfl, rfl⟩

/-- A job that asks for something is stopped at that request, or goes on with the answer. -/
theorem Runs.of_ask {next : r.Answer → Job α} {events : List Exchange} {result? : Option α}
    (h : Runs (.ask r next) m events m' result?) :
    (Interrupted m r m' ∧ events = [] ∧ result? = none) ∨
      ∃ a m₁ rest, Responds m r a m₁ ∧ Runs (next a) m₁ rest m' result? ∧
        events = ⟨r, a⟩ :: rest := by
  cases h with
  | stop h => exact .inl ⟨h, rfl, rfl⟩
  | ask ha h => exact .inr ⟨_, _, _, ha, h, rfl⟩

/-- A job that is followed by another is stopped, or comes to a result that the other goes on with.
-/
theorem Runs.of_bind {job : Job α} {f : α → Job β} {events : List Exchange} {result? : Option β}
    (h : Runs (job >>= f) m events m' result?) :
    (Runs job m events m' none ∧ result? = none) ∨
      ∃ a m₁ before after, Runs job m before m₁ (some a) ∧ Runs (f a) m₁ after m' result? ∧
        events = before ++ after := by
  induction job generalizing m events with
  | done a => exact .inr ⟨a, m, [], events, .done a m, h, rfl⟩
  | ask r next ih =>
    rcases Runs.of_ask (r := r) h with ⟨hm, rfl, rfl⟩ | ⟨a, m₁, rest, ha, hrest, rfl⟩
    · exact .inl ⟨.stop hm, rfl⟩
    · rcases ih a hrest with ⟨hnext, rfl⟩ | ⟨b, m₂, before, after, hbefore, hafter, rfl⟩
      · exact .inl ⟨.ask ha hnext, rfl⟩
      · exact .inr ⟨b, m₂, _, after, .ask ha hbefore, hafter, rfl⟩

/-- One job runs after another on the machine that it leaves. -/
theorem run_bind (m : Machine) (job : Job α) (f : α → Job β) :
    m.run (job >>= f) = (m.run job).2.run (f (m.run job).1) := by
  induction job generalizing m with
  | done a => rfl
  | ask r next ih => exact ih (m.answer r).1 (m.answer r).2

section
variable {ε : Type} {x : ExceptT ε Job α} {f : α → ExceptT ε Job β} {a : α} {e : ε}

/-- After a job that succeeds the rest goes on with its result. -/
theorem run_bind_ok (hx : m.run x.run = (.ok a, m')) : m.run (x >>= f).run = m'.run (f a).run := by
  rw [ExceptT.run_bind, run_bind, hx]

/-- After a job that fails the rest is left out. -/
theorem run_bind_error (hx : m.run x.run = (.error e, m')) :
    m.run (x >>= f).run = (.error e, m') := by
  rw [ExceptT.run_bind, run_bind, hx]
  rfl

/-- A result that is there already is handed on. -/
theorem lift_ok_bind (a : α) (f : α → ExceptT ε Job β) :
    (liftM (Except.ok a : Except ε α) >>= f) = f a := rfl

/-- Work that leaves the machine as it is, and then work that the result asks for. -/
theorem run_bind_of {r : Except ε α} {g : α → Except ε β} (hx : m.run x.run = (r, m))
    (hf : ∀ a, m.run (f a).run = (g a, m)) : m.run (x >>= f).run = (r >>= g, m) := by
  cases r with
  | ok a => rw [run_bind_ok hx, hf a]; rfl
  | error e => rw [run_bind_error hx]; rfl

end

/-- A removal that is stopped has done nothing. -/
theorem Interrupted.eq_of_remove (h : Interrupted m (.remove p) m') : m' = m := by
  cases h; rfl

/-- A move that is stopped has done nothing. -/
theorem Interrupted.eq_of_rename (h : Interrupted m (.rename p q) m') : m' = m := by
  cases h; rfl

/-- A removal may be answered by what it comes to. -/
theorem Responds.remove {t : Tree} (h : m.tree.remove p = .ok t) :
    Responds m (.remove p) (.ok ()) { m with tree := t } := by
  have hanswer : m.answer (.remove p) = (.ok (), { m with tree := t }) := by
    rw [Machine.answer, h, Machine.change]
  have hresponds : Responds m (.remove p) _ _ := .answers
  rw [hanswer] at hresponds
  exact hresponds

/-- A file is removed or not; the machine is not told that it is missing unless it is. -/
theorem Responds.of_remove {a : (Request.remove p).Answer} (h : Responds m (.remove p) a m') :
    (∃ t, m.tree.remove p = .ok t ∧ m' = { m with tree := t } ∧ a = .ok ()) ∨
      (m.tree.remove p = .error .missing ∧ m' = m ∧ a = .error .missing) ∨
      (m' = m ∧ a = .error .unsuitable) := by
  cases h with
  | answers =>
    cases hremove : m.tree.remove p with
    | ok t => exact .inl ⟨t, rfl, by simp [Machine.answer, Machine.change, hremove]⟩
    | error fault =>
      cases fault with
      | missing => exact .inr (.inl ⟨rfl, by simp [Machine.answer, Machine.change, hremove]⟩)
      | unsuitable => exact .inr (.inr (by simp [Machine.answer, Machine.change, hremove]))
  | refuses ha hm =>
    cases ha
    exact .inr (.inr ⟨hm.eq_of_remove, rfl⟩)

/-- A file is moved or not. -/
theorem Responds.of_rename {a : (Request.rename p q).Answer} (h : Responds m (.rename p q) a m') :
    (∃ t, m.tree.rename p q = .ok t ∧ m' = { m with tree := t } ∧ a = .ok ()) ∨
      (m' = m ∧ ∃ fault, a = .error fault) := by
  cases h with
  | answers =>
    cases hrename : m.tree.rename p q with
    | ok t => exact .inl ⟨t, rfl, by simp [Machine.answer, Machine.change, hrename]⟩
    | error fault => exact .inr (by simp [Machine.answer, Machine.change, hrename])
  | refuses ha hm =>
    cases ha
    exact .inr ⟨hm.eq_of_rename, _, rfl⟩

/-- A file is written, or the request fails with any part of it there. -/
theorem Responds.of_write {a : (Request.write p text).Answer}
    (h : Responds m (.write p text) a m') :
    (∃ t, m.tree.write p text = .ok t ∧ m' = { m with tree := t } ∧ a = .ok ()) ∨
      (Interrupted m (.write p text) m' ∧ ∃ fault, a = .error fault) := by
  cases h with
  | answers =>
    cases hwrite : m.tree.write p text with
    | ok t => exact .inl ⟨t, rfl, by simp [Machine.answer, Machine.change, hwrite]⟩
    | error fault =>
      refine .inr ⟨?_, fault, by simp [Machine.answer, Machine.change, hwrite]⟩
      simpa [Machine.answer, Machine.change, hwrite] using
        Interrupted.untouched (m := m) (.write p text)
  | refuses ha hm =>
    cases ha
    exact .inr ⟨hm, _, rfl⟩

/-- A file is read as it stands, if it can be read; nothing changes. -/
theorem Responds.of_read {a : (Request.read p).Answer} (h : Responds m (.read p) a m') :
    m' = m ∧ ∀ text, a = .ok text → m.tree.read p = .ok text := by
  cases h with
  | answers => exact ⟨rfl, fun _ ha => ha⟩
  | refuses ha hm =>
    cases ha
    cases hm
    exact ⟨rfl, nofun⟩

/-- A file that is written only in part is the only one that changes. -/
theorem Interrupted.changes_write (h : Interrupted m (.write p text) m') :
    m.tree.Changes {p.goal m.tree.work} m'.tree := by
  cases h with
  | untouched => exact .refl m.tree
  | written h => exact .write h

/-- A file that is written elsewhere, if only in part, makes none at a place. -/
theorem Interrupted.without {work g : Place} (h : Interrupted m (.write p text) m')
    (hm : m.tree.Without work g) (hp : g ≠ p.goal work) : m'.tree.Without work g :=
  hm.of_changes h.changes_write (hm.work ▸ hp)

/-- Making directories changes no file, however far it came. -/
theorem Interrupted.changes_createDirs (h : Interrupted m (.createDirs p) m') :
    m.tree.Changes ∅ m'.tree := by
  cases h with
  | untouched => exact .refl m.tree
  | made n => exact .createFrom m.tree m.tree.work _

/-- Making directories changes no file, whether it comes to its end or not. -/
theorem Responds.changes_createDirs {a : (Request.createDirs p).Answer}
    (h : Responds m (.createDirs p) a m') : m.tree.Changes ∅ m'.tree := by
  cases h with
  | answers => exact .createDirs m.tree p
  | refuses _ hm => exact hm.changes_createDirs

namespace Job

/-- All runs of a job from a machine: if the job is stopped, `stop` holds of what is left; if it
comes to a result, `post` holds of both. -/
structure Meets (job : Job α) (m : Machine) (stop : Machine → Prop) (post : α → Machine → Prop) :
    Prop where
  stopped : ∀ {events m'}, Runs job m events m' none → stop m'
  completed : ∀ {events m' a}, Runs job m events m' (some a) → post a m'

namespace Meets

variable {stop stop' : Machine → Prop} {post post' : α → Machine → Prop}

/-- What a job meets may be weakened. -/
theorem imp {job : Job α} (h : job.Meets m stop post) (hstop : ∀ m, stop m → stop' m)
    (hpost : ∀ a m, post a m → post' a m) : job.Meets m stop' post' :=
  ⟨fun hr => hstop _ (h.stopped hr), fun hr => hpost _ _ (h.completed hr)⟩

/-- A job that is done meets what holds of its result. -/
theorem done {a : α} (h : post a m) : (Job.done a).Meets m stop post := by
  constructor
  · intro events m' hr
    cases hr
  · intro events m' b hr
    cases hr
    exact h

/-- A job meets what it does in the case that a request is stopped, and after each answer. -/
theorem ask {next : r.Answer → Job α} (hstop : ∀ m', Interrupted m r m' → stop m')
    (hnext : ∀ a m', Responds m r a m' → (next a).Meets m' stop post) :
    (Job.ask r next).Meets m stop post := by
  constructor
  · intro events m' hr
    cases hr with
    | stop h => exact hstop m' h
    | ask ha h => exact (hnext _ _ ha).stopped h
  · intro events m' a hr
    cases hr with
    | ask ha h => exact (hnext _ _ ha).completed h

/-- A job, and then the one that its result asks for. -/
theorem bind {job : Job α} {f : α → Job β} {post : β → Machine → Prop}
    (h : job.Meets m stop fun a m' => (f a).Meets m' stop post) :
    (job >>= f).Meets m stop post := by
  constructor
  · intro events m' hr
    rcases hr.of_bind with ⟨hjob, -⟩ | ⟨a, m₁, before, after, hjob, hr, -⟩
    · exact h.stopped hjob
    · exact (h.completed hjob).stopped hr
  · intro events m' b hr
    rcases hr.of_bind with ⟨-, hb⟩ | ⟨a, m₁, before, after, hjob, hr, -⟩
    · cases hb
    · exact (h.completed hjob).completed hr

section
variable {f : Except Fault Unit → Job α}

/-- Writing a file is stopped, done, or refused. -/
theorem write (hstop : ∀ m', Interrupted m (.write p text) m' → stop m')
    (hok : ∀ t, m.tree.write p text = .ok t → (f (.ok ())).Meets { m with tree := t } stop post)
    (herror : ∀ fault m', Interrupted m (.write p text) m' →
      (f (.error fault)).Meets m' stop post) :
    (Job.write p text >>= f).Meets m stop post := by
  refine ask hstop fun a m' ha => ?_
  rcases ha.of_write with ⟨t, hwrite, rfl, rfl⟩ | ⟨hm', fault, rfl⟩
  · exact hok t hwrite
  · exact herror fault m' hm'

/-- Making directories is stopped or answered, and changes no file. -/
theorem createDirs (hstop : ∀ m', Interrupted m (.createDirs p) m' → stop m')
    (hnext : ∀ a m', m.tree.Changes ∅ m'.tree → (f a).Meets m' stop post) :
    (Job.createDirs p >>= f).Meets m stop post := by
  exact ask hstop fun a m' ha => hnext a m' ha.changes_createDirs

/-- Moving a file is stopped, done, or refused. -/
theorem rename (hstop : stop m)
    (hok : ∀ t, m.tree.rename p q = .ok t → (f (.ok ())).Meets { m with tree := t } stop post)
    (herror : ∀ fault, (f (.error fault)).Meets m stop post) :
    (Job.rename p q >>= f).Meets m stop post := by
  refine ask (fun m' hm' => hm'.eq_of_rename ▸ hstop) fun a m' ha => ?_
  rcases ha.of_rename with ⟨t, hrename, rfl, rfl⟩ | ⟨rfl, fault, rfl⟩
  · exact hok t hrename
  · exact herror fault

/-- Removing a file is stopped, done, or refused. -/
theorem remove (hstop : stop m)
    (hok : ∀ t, m.tree.remove p = .ok t → (f (.ok ())).Meets { m with tree := t } stop post)
    (herror : ∀ fault, (f (.error fault)).Meets m stop post) :
    (Job.remove p >>= f).Meets m stop post := by
  refine ask (fun m' hm' => hm'.eq_of_remove ▸ hstop) fun a m' ha => ?_
  rcases ha.of_remove with ⟨t, hremove, rfl, rfl⟩ | ⟨-, rfl, rfl⟩ | ⟨rfl, rfl⟩
  · exact hok t hremove
  · exact herror .missing
  · exact herror .unsuitable

end

end Meets

/-- What holds of the result of a job and of what it leaves, if all that it removes is gone. -/
def Ensures (job : Job α) (m : Machine) (post : α → Machine → Prop) : Prop :=
  ∀ events m' a, Runs job m events m' (some a) →
    (∀ x ∈ events, Exchange.removes x = true) → post a m'

namespace Ensures

variable {post post' : α → Machine → Prop}

/-- What a job ensures may be weakened. -/
theorem imp {job : Job α} (h : job.Ensures m post) (hpost : ∀ a m, post a m → post' a m) :
    job.Ensures m post' :=
  fun events m' a hr hremoves => hpost a m' (h events m' a hr hremoves)

/-- A job that is done ensures what holds of its result. -/
theorem done {a : α} (h : post a m) : (Job.done a).Ensures m post := by
  intro events m' b hr _
  cases hr
  exact h

/-- A job ensures what it does after each answer that carries out a removal. -/
theorem ask {next : r.Answer → Job α} (hnext : ∀ a m', Responds m r a m' →
    Exchange.removes ⟨r, a⟩ = true → (next a).Ensures m' post) :
    (Job.ask r next).Ensures m post := by
  intro events m' a hr hremoves
  cases hr with
  | ask ha h =>
    exact hnext _ _ ha (hremoves _ (.head _)) _ m' a h fun x hx => hremoves x (.tail _ hx)

/-- A job, and then the one that its result asks for. -/
theorem bind {job : Job α} {f : α → Job β} {post : β → Machine → Prop}
    (h : job.Ensures m fun a m' => (f a).Ensures m' post) : (job >>= f).Ensures m post := by
  intro events m' b hr hremoves
  rcases hr.of_bind with ⟨-, hb⟩ | ⟨a, m₁, before, after, hjob, hrest, rfl⟩
  · cases hb
  · refine h before m₁ a hjob (fun x hx => ?_) after m' b hrest fun x hx => ?_
    · exact hremoves x (List.mem_append_left _ hx)
    · exact hremoves x (List.mem_append_right _ hx)

section
variable {f : Except Fault Unit → Job α}

/-- Writing a file is done, or refused. -/
theorem write (hok : ∀ t, m.tree.write p text = .ok t →
      (f (.ok ())).Ensures { m with tree := t } post)
    (herror : ∀ fault m', Interrupted m (.write p text) m' → (f (.error fault)).Ensures m' post) :
    (Job.write p text >>= f).Ensures m post := by
  refine ask fun a m' ha _ => ?_
  rcases ha.of_write with ⟨t, hwrite, rfl, rfl⟩ | ⟨hm', fault, rfl⟩
  · exact hok t hwrite
  · exact herror fault m' hm'

/-- Making directories changes no file. -/
theorem createDirs (hnext : ∀ a m', m.tree.Changes ∅ m'.tree → (f a).Ensures m' post) :
    (Job.createDirs p >>= f).Ensures m post :=
  ask fun a m' ha _ => hnext a m' ha.changes_createDirs

/-- Moving a file is done, or refused. -/
theorem rename (hok : ∀ t, m.tree.rename p q = .ok t →
      (f (.ok ())).Ensures { m with tree := t } post)
    (herror : ∀ fault, (f (.error fault)).Ensures m post) :
    (Job.rename p q >>= f).Ensures m post := by
  refine ask fun a m' ha _ => ?_
  rcases ha.of_rename with ⟨t, hrename, rfl, rfl⟩ | ⟨rfl, fault, rfl⟩
  · exact hok t hrename
  · exact herror fault

/-- What is removed is gone, or was missing. -/
theorem remove (hok : ∀ t, m.tree.remove p = .ok t →
      (f (.ok ())).Ensures { m with tree := t } post)
    (hmissing : m.tree.remove p = .error .missing → (f (.error .missing)).Ensures m post) :
    (Job.remove p >>= f).Ensures m post := by
  refine ask fun a m' ha hremoves => ?_
  rcases ha.of_remove with ⟨t, hremove, rfl, rfl⟩ | ⟨hremove, rfl, rfl⟩ | ⟨rfl, rfl⟩
  · exact hok t hremove
  · exact hmissing hremove
  · cases hremoves

end

end Ensures

/-- A job that leaves the machine as it is, wherever it is stopped. -/
def Looks (job : Job α) : Prop :=
  ∀ m, job.Meets m (· = m) fun _ m' => m' = m

namespace Looks

/-- A job that is done changes nothing. -/
theorem done (a : α) : (Job.done a).Looks :=
  fun _ => .done rfl

/-- Two jobs that change nothing, one after the other, change nothing. -/
theorem bind {job : Job α} {f : α → Job β} (h : job.Looks) (hf : ∀ a, (f a).Looks) :
    (job >>= f).Looks := by
  refine fun m => .bind ((h m).imp (fun _ h => h) ?_)
  rintro a m' rfl
  exact hf a m'

/-- A request changes nothing if neither its answers nor stopping it do. -/
theorem request (hstop : ∀ m m', Interrupted m r m' → m' = m)
    (hanswer : ∀ m : Machine, (m.answer r).2 = m) :
    (Job.request r).Looks := by
  refine fun m => .ask (hstop m) fun a m' ha => .done ?_
  cases ha with
  | answers => exact hanswer m
  | refuses _ hm => exact hstop m m' hm

/-- Reading a file changes nothing. -/
theorem read (p : Path) : (Job.read p).Looks :=
  request (fun _ _ h => by cases h; rfl) fun _ => rfl

/-- Walking through a directory changes nothing. -/
theorem walk (p : Path) : (Job.walk p).Looks :=
  request (fun _ _ h => by cases h; rfl) fun _ => rfl

/-- Asking for a directory changes nothing. -/
theorem isDirectory (p : Path) : (Job.isDirectory p).Looks :=
  request (fun _ _ h => by cases h; rfl) fun _ => rfl

end Looks

end Job

end

end Wiring.Disk
