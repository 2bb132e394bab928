import Wiring.Command.Run
import Wiring.Proofs.Artifact.Load
import Wiring.Proofs.Discovery.Project

/-!
# Histories of compiling

A project is compiled over and over with one configuration. Each attempt may be refused, end with
denied warnings, meet requests that fail, or stop anywhere with a request half done. One attempt
leaves what was there if it does not get past the removal of the last manifest; else it leaves no
manifest, or all files of what it compiled if it completes (`CompileRun.Leads.step`). So whatever is
loaded after any such history comes from the last attempt that completed (`History.load_artifacts`).

The output directory is relative or absolute. An absolute one is the same directory from everywhere,
so there the attempts need not share their working directory.
-/

namespace Wiring

open Disk

namespace Command

section
variable (run : String) (c : Config) (settings : CompileOptions)

/-- What compiling tells before it touches a file. -/
def opening : Except CompileError Compilation → Outcome
  | .error _ => Outcome.printed ["→ Compiling " ++ c.projectRoot]
  | .ok done => (Outcome.printed ["→ Compiling " ++ c.projectRoot]).after
    { errors := report settings done.diagnostics }

/-- What compiling does with what the project came to. -/
def conclude (result : Except CompileError Compilation) : Job Outcome := do
  let outcome ← Attempt.outcome <|
    match result with
    | .error e => do
      c.invalidateStale
      throw ("Compilation failed: " ++ e.message)
    | .ok done => write run c settings done
  return (opening c settings result).after outcome

/-- Compiling is analysing the project and then going on with what it came to. -/
theorem compileWith_eq : compileWith run c settings =
    Compilation.ofProject [] c (if settings.sources.isEmpty then ["src"] else settings.sources) >>=
      conclude run c settings :=
  congrArg (_ >>= ·) (funext fun result => by cases result <;> rfl)

/-- What compiling does with what the project came to when the manifest is gone. -/
def finish (result : Except CompileError Compilation) : Job Outcome := do
  let outcome ← Attempt.outcome <|
    match result with
    | .error e => throw ("Compilation failed: " ++ e.message)
    | .ok done =>
      if settings.denyWarnings && !done.diagnostics.isEmpty then return { status := 1 }
      else do
        let manifest ← Attempt.orFail "Failed to write artifacts" CompileError.message
          (done.plans.replace run c)
        return Outcome.printed (summary c done.plans manifest)
  return (opening c settings result).after outcome

/-- Whatever the project came to, the manifest is removed first. -/
theorem conclude_eq (result : Except CompileError Compilation) :
    ∃ what : String, conclude run c settings result = (do
      match ← c.invalidate with
      | .error e => return (opening c settings result).after (.failed (what ++ ": " ++ e.message))
      | .ok () => finish run c settings result) := by
  have hask {next next' : Except Disk.Fault Unit → Job Outcome}
    (hok : next (.ok ()) = next' (.ok ()))
      (hmissing : next (.error .missing) = next' (.error .missing))
      (hunsuitable : next (.error .unsuitable) = next' (.error .unsuitable)) :
      Job.ask (.remove c.manifestPath) next = Job.ask (.remove c.manifestPath) next' := by
    refine congrArg (Job.ask _) (funext fun answer => ?_)
    rcases answer with (_ | _) | _
    · exact hmissing
    · exact hunsuitable
    · exact hok
  cases result with
  | error e => exact ⟨"Failed to remove stale manifest", hask rfl rfl rfl⟩
  | ok done =>
    by_cases hdenied : (settings.denyWarnings && !done.diagnostics.isEmpty) = true
    · refine ⟨"Failed to remove stale manifest", ?_⟩
      simp only [conclude, finish, write, hdenied, if_true]
      exact hask rfl rfl rfl
    · refine ⟨"Failed to write artifacts", ?_⟩
      simp only [conclude, finish, write, hdenied, Plans.emit_eq]
      exact hask rfl rfl rfl

variable {run c settings} {m : Machine}

/-- Compiling that finds no manifest leaves the artifacts of what it compiled if its status is zero,
and no manifest if it is another. -/
theorem finish_meets {result : Except CompileError Compilation} (hc : c.PlainNames)
    (hrun : c.Admits run) (hm : c.Unpublished m) :
    (finish run c settings result).Meets m c.Unpublished fun outcome m' =>
      (outcome.status = 0 ∧ ∃ done, result = .ok done ∧ c.Published done.plans m') ∨
        (outcome.status ≠ 0 ∧ c.Unpublished m') := by
  have hfailed {outcome : Outcome} {m' : Machine} (h : outcome.status = 1)
      (hm' : c.Unpublished m') : outcome.status ≠ 0 ∧ c.Unpublished m' :=
    ⟨h ▸ Nat.one_ne_zero, hm'⟩
  simp only [finish]
  cases result with
  | error e => exact .done (.inr (hfailed rfl hm))
  | ok done =>
    by_cases hdenied : (settings.denyWarnings && !done.diagnostics.isEmpty) = true
    · simp only [hdenied, if_true]
      exact .done (.inr (hfailed rfl hm))
    · simp only [hdenied]
      refine .bind (.bind (.bind (.bind (.imp (done.plans.replace_meets hc hrun hm)
        (fun _ h => h) ?_))))
      rintro (e | manifest) m' hm'
      · exact .done (.done (.done (.done (.inr (hfailed rfl hm')))))
      · exact .done (.done (.done (.done (.inl ⟨rfl, done, rfl, hm'⟩))))

end

end Command

/-- An attempt to compile: the number of its process and how it was asked for, what the project came
to, which requests were answered from then on, and the outcome if it was not stopped before. -/
structure CompileRun where
  pid : Nat
  settings : CompileOptions
  result : Except CompileError Compilation
  events : List Exchange
  outcome? : Option Outcome

namespace CompileRun

/-- The name that the staging files of an attempt carry. -/
def name (a : CompileRun) : String :=
  toString a.pid

/-- The attempt leads from one machine to another. -/
def Leads (c : Config) (a : CompileRun) (m m' : Machine) : Prop :=
  Runs (Command.conclude a.name c a.settings a.result) m a.events m' a.outcome?

/-- The attempt came to its end, with all its requests answered, and was no failure. -/
def Completed (a : CompileRun) : Prop :=
  ∃ outcome, a.outcome? = some outcome ∧ outcome.status = 0

/-- The attempt got past the removal of the last manifest. -/
def Invalidated (c : Config) (a : CompileRun) : Prop :=
  ⟨.remove c.manifestPath, .ok ()⟩ ∈ a.events ∨
    ⟨.remove c.manifestPath, .error .missing⟩ ∈ a.events

section
variable {c : Config} {a : CompileRun} {m m' : Machine}

/-- An attempt that was stopped did not come to its end. -/
theorem not_completed_of_stopped (h : a.outcome? = none) : ¬ a.Completed := by
  rintro ⟨outcome, houtcome, -⟩
  rw [h] at houtcome
  cases houtcome

/-- An attempt that exits with a status other than zero was a failure. -/
theorem not_completed_of_failed {outcome : Outcome} (h : a.outcome? = some outcome)
    (hstatus : outcome.status ≠ 0) : ¬ a.Completed := by
  rintro ⟨outcome', houtcome, hzero⟩
  cases h.symm.trans houtcome
  exact hstatus hzero

/-- An attempt for which the manifest is gone leaves the files of what it compiled if it completes,
and no manifest if it does not. -/
theorem of_finish {events : List Exchange} (hc : c.OwnNames) (hm : c.Unpublished m)
    (h : Runs (Command.finish a.name c a.settings a.result) m events m' a.outcome?) :
    (¬ a.Completed ∧ c.Unpublished m') ∨
      (a.Completed ∧ ∃ done, a.result = .ok done ∧ c.Published done.plans m') := by
  have hmeets : (Command.finish a.name c a.settings a.result).Meets m c.Unpublished _ :=
    Command.finish_meets hc.toPlainNames (hc.admits a.pid) hm
  cases houtcome : a.outcome? with
  | none =>
    rw [houtcome] at h
    exact .inl ⟨not_completed_of_stopped houtcome, hmeets.stopped h⟩
  | some outcome =>
    rw [houtcome] at h
    rcases hmeets.completed h with ⟨hzero, hpublished⟩ | ⟨hstatus, hm'⟩
    · exact .inr ⟨⟨outcome, houtcome, hzero⟩, hpublished⟩
    · exact .inl ⟨not_completed_of_failed houtcome hstatus, hm'⟩

/-- What one attempt does: nothing, if it does not get past the removal of the last manifest; else
it leaves the files of what it compiled if it completes, and no manifest if it does not. -/
theorem Leads.step (h : a.Leads c m m') (hc : c.OwnNames)
    (hm : c.Unpublished m ∨ ∃ p, c.Published p m) :
    (¬ a.Invalidated c ∧ ¬ a.Completed ∧ m' = m) ∨
      (a.Invalidated c ∧ ¬ a.Completed ∧ c.Unpublished m') ∨
      (a.Invalidated c ∧ a.Completed ∧ ∃ done, a.result = .ok done ∧
        c.Published done.plans m') := by
  obtain ⟨what, hconclude⟩ := Command.conclude_eq a.name c a.settings a.result
  rw [Leads, hconclude] at h
  rcases Runs.of_ask (r := .remove c.manifestPath) h with
    ⟨hstop, hevents, hstopped⟩ | ⟨answer, m₁, rest, hanswer, hrest, hevents⟩
  · refine .inl ⟨?_, not_completed_of_stopped hstopped, hstop.eq_of_remove⟩
    simp [Invalidated, hevents]
  have hgone {m₁ : Machine} (hinvalidated : a.Invalidated c) (hm₁ : c.Unpublished m₁)
      (hrest : Runs (Command.finish a.name c a.settings a.result) m₁ rest m' a.outcome?) :
      (a.Invalidated c ∧ ¬ a.Completed ∧ c.Unpublished m') ∨
        (a.Invalidated c ∧ a.Completed ∧
          ∃ done, a.result = .ok done ∧ c.Published done.plans m') := by
    rcases of_finish hc hm₁ hrest with hnot | hcompleted
    · exact .inl ⟨hinvalidated, hnot⟩
    · exact .inr ⟨hinvalidated, hcompleted⟩
  rcases hanswer.of_remove with ⟨t, hremove, rfl, rfl⟩ | ⟨hremove, rfl, rfl⟩ | ⟨rfl, rfl⟩
  · exact .inr (hgone (.inl (hevents ▸ .head rest)) (Config.unpublished_of_remove hremove) hrest)
  · refine .inr (hgone (.inr (hevents ▸ .head rest)) ?_ hrest)
    -- A manifest that is there is not missing.
    rcases hm with hm | ⟨p, hp⟩
    · exact hm
    · rw [Tree.remove_of_read hp.manifest] at hremove
      cases hremove
  · obtain ⟨rfl, rfl, houtcome⟩ := Runs.of_done hrest
    refine .inl ⟨?_, not_completed_of_failed houtcome Nat.one_ne_zero, rfl⟩
    simp [Invalidated, hevents]

end

end CompileRun

/-- What attempts to compile with one configuration can lead to, from a machine without a manifest.
Between two attempts other files can be edited, and the working directory can be another one if the
output directory does not depend on it. -/
inductive History (c : Config) : List CompileRun → Machine → Prop
  | start {m : Machine} (h : c.Unpublished m) : History c [] m
  | edit {runs : List CompileRun} {m m' : Machine} {places : Set Place} (h : History c runs m)
    (hm : m.tree.Changes places m'.tree)
    (hplaces : ∀ p ∈ c.artifactPaths, p.goal m.tree.work ∉ places) : History c runs m'
  | move {runs : List CompileRun} {m : Machine} (h : History c runs m)
    (hdir : c.outputDir.isAbsolute = true) (work : Place) :
    History c runs { m with tree := m.tree.seenFrom work }
  | compile {runs : List CompileRun} {a : CompileRun} {m m' : Machine} (h : History c runs m)
    (ha : a.Leads c m m') : History c (runs ++ [a]) m'

namespace History

variable {c : Config} {runs : List CompileRun} {m m' : Machine}

/-- A history goes on with the command that compiles. Analysing the project changes nothing; if the
command is not stopped there, the rest of it is one more attempt. -/
theorem compileWith {pid : Nat} {settings : CompileOptions} {events : List Exchange}
    {outcome? : Option Outcome} (h : History c runs m)
    (hr : Runs (Command.compileWith (toString pid) c settings) m events m' outcome?) :
    (outcome? = none ∧ History c runs m') ∨
      ∃ result before rest, events = before ++ rest ∧
        History c (runs ++ [⟨pid, settings, result, rest, outcome?⟩]) m' := by
  rw [Command.compileWith_eq] at hr
  have hlooks := Compilation.ofProject_looks [] c
    (if settings.sources.isEmpty then ["src"] else settings.sources) m
  rcases hr.of_bind with ⟨hstop, rfl⟩ | ⟨result, m₁, before, rest, hproject, hrest, rfl⟩
  · rw [hlooks.stopped hstop]
    exact .inl ⟨rfl, h⟩
  · rw [hlooks.completed hproject] at hrest
    exact .inr ⟨result, before, rest, rfl, h.compile hrest⟩

/-- Of some attempts, the last one that got past the removal of a manifest completed, and this is
what it compiled. -/
def Stands (c : Config) (runs : List CompileRun) (done : Compilation) : Prop :=
  ∃ before a after, runs = before ++ a :: after ∧ a.Completed ∧ a.result = .ok done ∧
    ∀ b ∈ after, ¬ b.Invalidated c ∧ ¬ b.Completed

/-- Attempts leave no manifest or the files of the compilation that stands. -/
theorem settled (h : History c runs m) (hc : c.OwnNames) :
    c.Unpublished m ∨ ∃ done, Stands c runs done ∧ c.Published done.plans m := by
  induction h with
  | start h => exact .inl h
  | edit h hm hplaces ih =>
    rcases ih with hm₀ | ⟨done, hstands, hpublished⟩
    · exact .inl (hm₀.of_changes hm hplaces)
    · exact .inr ⟨done, hstands, hpublished.of_changes hm hplaces⟩
  | move h hdir work ih =>
    rcases ih with hm₀ | ⟨done, hstands, hpublished⟩
    · exact .inl (hm₀.seenFrom hc.toPlainNames hdir work)
    · exact .inr ⟨done, hstands, hpublished.seenFrom hc.toPlainNames hdir work⟩
  | @compile runs a m m' h ha hm =>
    have hsettled : c.Unpublished m ∨ ∃ p, c.Published p m := by
      rcases hm with hm | ⟨done, -, hpublished⟩
      · exact .inl hm
      · exact .inr ⟨done.plans, hpublished⟩
    rcases ha.step hc hsettled with
      ⟨hinvalidated, hcompleted, rfl⟩ | ⟨-, -, hm'⟩ | ⟨-, hcompleted, done, hdone, hpublished⟩
    · rcases hm with hm | ⟨done, ⟨before, a', after, rfl, ha', hdone, hafter⟩, hpublished⟩
      · exact .inl hm
      · refine .inr ⟨done, ⟨before, a', after ++ [a], by simp, ha', hdone, ?_⟩, hpublished⟩
        intro b hb
        rcases List.mem_append.1 hb with hb | hb
        · exact hafter b hb
        · rw [List.mem_singleton.1 hb]
          exact ⟨hinvalidated, hcompleted⟩
    · exact .inl hm'
    · exact .inr ⟨done, ⟨runs, a, [], rfl, hcompleted, hdone, List.forall_mem_nil _⟩, hpublished⟩

/-- An attempt that got past the removal of a manifest without completing is followed by one that
completed, if a compilation stands. -/
theorem Stands.exists_completed {done : Compilation} {before after : List CompileRun}
    {a : CompileRun} (h : Stands c runs done) (hruns : runs = before ++ a :: after)
    (hinvalidated : a.Invalidated c) (hcompleted : ¬ a.Completed) : ∃ b ∈ after, b.Completed := by
  obtain ⟨before', a', after', rfl, ha', -, hafter'⟩ := h
  have hne : a' ≠ a := fun heq => hcompleted (heq ▸ ha')
  rcases List.append_eq_append_iff.1 hruns with ⟨between, -, hlater⟩ | ⟨between, -, hearlier⟩
  · cases between with
    | nil => exact absurd (List.cons.inj hlater).1 hne
    | cons b between =>
      have ha : a ∈ after' := (List.cons.inj hlater).2 ▸ List.mem_append_right _ (.head _)
      exact absurd hinvalidated (hafter' a ha).1
  · cases between with
    | nil => exact absurd (List.cons.inj hearlier).1.symm hne
    | cons b between =>
      exact ⟨a', (List.cons.inj hearlier).2 ▸ List.mem_append_right _ (.head _), ha'⟩

/-- With names of their own in whatever output directory, what is loaded at any point of a history
are the artifacts of the last attempt that completed, byte for byte, and nothing is loaded when a
later attempt got past the removal of the manifest without completing. -/
theorem load_artifacts (h : History c runs m) (hc : c.OwnNames) :
    (∀ loaded, (m.run (LoadedArtifacts.load c).run).1 = .ok loaded →
      ∃ done, Stands c runs done ∧ loaded.ReadFrom m (done.plans.artifactText true c)) ∧
    ∀ before a after, runs = before ++ a :: after → a.Invalidated c → ¬ a.Completed →
      (∀ b ∈ after, ¬ b.Completed) → ∃ e, (m.run (LoadedArtifacts.load c).run).1 = .error e := by
  rcases h.settled hc with hm | ⟨done, hstands, hpublished⟩
  · obtain ⟨e, he⟩ := LoadedArtifacts.run_load_unpublished hm
    rw [he]
    exact ⟨fun _ hloaded => (by cases hloaded), fun _ _ _ _ _ _ _ => ⟨e, rfl⟩⟩
  · refine ⟨fun loaded hloaded => ?_, fun before a after hruns hinvalidated hcompleted hafter => ?_⟩
    · exact ⟨done, hstands, LoadedArtifacts.readFrom_of_published hpublished hloaded⟩
    · obtain ⟨b, hb, hb'⟩ := hstands.exists_completed hruns hinvalidated hcompleted
      exact absurd hb' (hafter b hb)

/-- A project in an absolute directory. -/
def deployed : Config where
  projectRoot := "/srv/shop"

/-- The artifacts of the deployed project have names of their own. -/
theorem deployed_ownNames : deployed.OwnNames :=
  .of_dotless ⟨by decide, by decide⟩ (by decide)

/-- The artifacts of an empty project are read back. -/
theorem exists_load_empty {m : Machine} (h : deployed.Published {} m) :
    ∃ loaded, (m.run (LoadedArtifacts.load deployed).run).1 = .ok loaded := by
  have hexact (kind : ArtifactKind) : Json.Exact (Plans.content {} deployed kind) := by
    cases kind <;> simp [deployed, Plans.content, ContainerContent.toDatum, ContainerPlan.toDatum,
      Config.toDatum, OutputConfig.toDatum, ArtifactConfig.toDatum, CapabilityConfig.toDatum,
      RouterPlan.toDatum, MiddlewarePlan.toDatum, ListenerTable.toDatum]
  have hnesting (kind : ArtifactKind) :
      (Plans.content {} deployed kind).nesting + 1 < Json.depthLimit := by
    cases kind <;> decide +kernel
  have hdecode {α : Type} (kind : ArtifactKind) {read : Datum → Option α} {a : α}
      (hread : read (Plans.content {} deployed kind) = some a) (path : Path) :
      LoadedArtifacts.decode read path (Plans.artifactText {} true deployed kind) = .ok a :=
    LoadedArtifacts.decode_render (hexact kind) (hnesting kind) hread path _ true
  obtain ⟨content, hcontent⟩ : ∃ content,
      ContainerContent.ofDatum? (Plans.content {} deployed .container) = some content :=
    Option.isSome_iff_exists.1 (by decide +kernel)
  obtain ⟨router, hrouter⟩ : ∃ router,
      RouterPlan.ofDatum? (Plans.content {} deployed .router) = some router :=
    Option.isSome_iff_exists.1 (by decide +kernel)
  obtain ⟨middleware, hmiddleware⟩ : ∃ middleware,
      MiddlewarePlan.ofDatum? (Plans.content {} deployed .middleware) = some middleware :=
    Option.isSome_iff_exists.1 (by decide +kernel)
  obtain ⟨listeners, hlisteners⟩ : ∃ listeners,
      ListenerTable.ofDatum? (Plans.content {} deployed .listeners) = some listeners :=
    Option.isSome_iff_exists.1 (by decide +kernel)
  rw [LoadedArtifacts.run_load h]
  simp only [hdecode .container hcontent, hdecode .router hrouter, hdecode .middleware hmiddleware,
    hdecode .listeners hlisteners]
  exact ⟨_, rfl⟩

/-- A machine without files that does all it is asked to compiles an empty project. -/
theorem exists_compiled_empty : ∃ (compiled : CompileRun) (m : Machine),
    History deployed [compiled] m ∧ deployed.Published {} m := by
  let job := Command.conclude (toString 1) deployed {} (.ok ⟨{}, []⟩)
  obtain ⟨events, hevents⟩ := runs_run {} job
  let compiled : CompileRun := ⟨1, {}, .ok ⟨{}, []⟩, events, some (({} : Machine).run job).1⟩
  have hleads : compiled.Leads deployed {} (({} : Machine).run job).2 := hevents
  have hcompleted : compiled.Completed := ⟨_, rfl, by decide +kernel⟩
  have hempty := deployed.unpublished_empty
  refine ⟨compiled, _, (History.start hempty).compile hleads, ?_⟩
  rcases hleads.step deployed_ownNames (.inl hempty) with
    ⟨-, h, -⟩ | ⟨-, h, -⟩ | ⟨-, -, done, hdone, hpublished⟩
  · exact absurd hcompleted h
  · exact absurd hcompleted h
  · cases hdone
    exact hpublished

/-- An empty project in an absolute directory is compiled, and its artifacts are loaded from another
working directory; then its configuration is refused, and nothing is loaded. -/
theorem load_artifacts_refused : ∃ compiled refused m m',
    History deployed [compiled] m ∧ m.tree.work = ["home"] ∧
      History deployed [compiled, refused] m' ∧
      (∃ loaded done, (m.run (LoadedArtifacts.load deployed).run).1 = .ok loaded ∧
        Stands deployed [compiled] done ∧
        loaded.ReadFrom m (done.plans.artifactText true deployed)) ∧
      ∃ e, (m'.run (LoadedArtifacts.load deployed).run).1 = .error e := by
  obtain ⟨compiled, m₀, hcompiled, hpublished₀⟩ := exists_compiled_empty
  let m : Machine := { m₀ with tree := m₀.tree.seenFrom ["home"] }
  have hdir : deployed.outputDir.isAbsolute = true := by decide
  have hcompile : History deployed [compiled] m := hcompiled.move hdir ["home"]
  have hpublished : deployed.Published {} m :=
    hpublished₀.seenFrom deployed_ownNames.toPlainNames hdir ["home"]
  obtain ⟨loaded, hloaded⟩ := exists_load_empty hpublished
  obtain ⟨done, hstands, hread⟩ := (load_artifacts hcompile deployed_ownNames).1 loaded hloaded
  let path := deployed.manifestPath
  let failure := (Command.opening deployed {} (.error .configText)).after
    (.failed ("Compilation failed: " ++ CompileError.configText.message))
  let refused : CompileRun :=
    ⟨2, {}, .error .configText, [⟨.remove path, .ok ()⟩], some failure⟩
  have hleads : refused.Leads deployed m { m with tree := m.tree.erase (path.goal m.tree.work) } :=
    .ask (.remove (Tree.remove_of_read hpublished.manifest)) (.done _ _)
  have hrefuse := hcompile.compile hleads
  refine ⟨compiled, refused, m, _, hcompile, rfl, hrefuse,
    ⟨loaded, done, hloaded, hstands, hread⟩, ?_⟩
  exact (load_artifacts hrefuse deployed_ownNames).2 [compiled] refused [] rfl
    (.inl (.head _)) (CompileRun.not_completed_of_failed rfl Nat.one_ne_zero)
      (List.forall_mem_nil _)

end History

end Wiring
