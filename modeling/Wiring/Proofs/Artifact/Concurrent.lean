import Wiring.Proofs.Artifact.Share
import Wiring.Proofs.Command.History

/-!
# Writing and loading at the same time

Any number of processes write artifacts with one configuration while another one loads them, and
their requests come in any order. The directory may then hold artifacts of different runs. But the
manifest that is read lists the digests of one run, the last that moved a manifest into place, and
every file that is in place has the text of some run; so if the digests tell these texts apart, all
that is loaded is of that run (`load_of_interleaved`).
-/

namespace Wiring

open Disk Tree

namespace Staged

/-- A separator that is in neither of two ends cuts both lists at the same place. -/
theorem append_cons_inj_of_notMem_right {α : Type} {a a' b b' : List α} {x : α} (hb : x ∉ b)
    (hb' : x ∉ b') (h : a ++ x :: b = a' ++ x :: b') : a = a' ∧ b = b' := by
  rcases List.append_eq_append_iff.1 h with ⟨c, rfl, hc⟩ | ⟨c, rfl, hc⟩
  · cases c with
    | nil => exact ⟨(List.append_nil _).symm, (List.cons.inj hc).2⟩
    | cons y c => exact absurd ((List.cons.inj hc).2 ▸ List.mem_append_right _ (.head _)) hb
  · cases c with
    | nil => exact ⟨List.append_nil _, (List.cons.inj hc).2.symm⟩
    | cons y c => exact absurd ((List.cons.inj hc).2 ▸ List.mem_append_right _ (.head _)) hb'

/-- Staging names tell the runs apart if the name of a run has no dot. -/
theorem stagingName_inj {run run' file file' : String} (hrun : '.' ∉ run.toList)
    (hrun' : '.' ∉ run'.toList) (h : stagingName run file = stagingName run' file') :
    run = run' ∧ file = file' := by
  have hlist := congrArg String.toList h
  rw [toList_stagingName, toList_stagingName] at hlist
  have hcut : file.toList ++ '.' :: run.toList = file'.toList ++ '.' :: run'.toList := by
    have hends : (file.toList ++ '.' :: run.toList) ++ ".staged".toList =
        (file'.toList ++ '.' :: run'.toList) ++ ".staged".toList := by
      simpa using (List.cons.inj hlist).2
    exact List.append_cancel_right hends
  obtain ⟨hfile, hname⟩ := append_cons_inj_of_notMem_right hrun hrun' hcut
  exact ⟨String.toList_inj.1 hname, String.toList_inj.1 hfile⟩

end Staged

/-- A run that writes artifacts: the number of its process, what it writes, and how. -/
structure EmitRun where
  pid : Nat
  plans : Plans
  isPretty : Bool

namespace EmitRun

/-- The name that the staging files of a run carry. -/
def name (r : EmitRun) : String :=
  toString r.pid

/-- The text that a run writes for a kind of artifact. -/
def artifactText (r : EmitRun) (c : Config) (kind : ArtifactKind) : String :=
  r.plans.artifactText r.isPretty c kind

/-- The text that a run writes as its manifest. -/
def manifestText (r : EmitRun) (c : Config) : String :=
  (r.plans.manifest r.isPretty c).text r.isPretty

/-- The exchange in which a run moves its manifest into place. -/
def movesManifest (r : EmitRun) (c : Config) : Exchange :=
  ⟨.rename (Staged.of r.name c.outputDir c.output.manifest).staging c.manifestPath, .ok ()⟩

/-- The name of a run tells the number of its process. -/
theorem name_injective {r r' : EmitRun} (h : r.name = r'.name) : r.pid = r'.pid := by
  have hdigits := congrArg (fun s => Nat.ofDigitChars 10 s.toList 0) h
  simpa [name, Nat.toString_eq_ofList_toDigits] using hdigits

end EmitRun

namespace Config

section
variable {κ : Type} {c : Config} {runs : κ → EmitRun} {work : Place}

/-- What runs write with one configuration, seen from a working directory. -/
def batches (c : Config) (work : Place) (runs : κ → EmitRun) : Batches κ where
  work
  dir := c.outputDir
  names := ArtifactKind.all.map fun kind => (kind.settings c).file
  last := c.output.manifest
  run k := (runs k).name
  text k f :=
    match ArtifactKind.all.find? fun kind => (kind.settings c).file = f with
    | some kind => (runs k).artifactText c kind
    | none => (runs k).manifestText c

/-- The file of a kind of artifact is one that every batch publishes. -/
theorem file_mem (c : Config) (work : Place) (runs : κ → EmitRun) (kind : ArtifactKind) :
    (kind.settings c).file ∈ (c.batches work runs).names :=
  List.mem_map_of_mem (by cases kind <;> decide)

/-- Runs with different process numbers leave the files of the others alone. -/
theorem OwnNames.apart_batches (hc : c.OwnNames)
    (hpids : ∀ k k', (runs k).pid = (runs k').pid → k = k') (work : Place) :
    (c.batches work runs).Apart := by
  have hfinal f (hf : f ∈ c.artifactFiles) :=
    Path.getLast?_goal_join c.outputDir (hc.plain f hf) work
  have hstaged k f (hf : f ∈ c.artifactFiles) :=
    Staged.getLast?_goal_staging (hc.admits (runs k).pid).slash (hc.plain f hf) c.outputDir work
  refine ⟨hc.nodup, fun f hf f' hf' h => ?_, fun k f hf k' f' hf' h => ?_,
    fun f hf k f' hf' h => ?_⟩
  · exact Path.eq_of_getLast? (hfinal f hf) (hfinal f' hf') h
  · obtain ⟨hname, hfile⟩ := Staged.stagingName_inj (Staged.notMem_toString (runs k).pid rfl)
      (Staged.notMem_toString (runs k').pid rfl)
      (Path.eq_of_getLast? (hstaged k f hf) (hstaged k' f' hf') h)
    exact ⟨hpids k k' (EmitRun.name_injective hname), hfile⟩
  · exact hc.unstaged (runs k).pid f hf f' hf'
      (Path.eq_of_getLast? (hfinal f hf) (hstaged k f' hf') h)

/-- Different kinds of artifacts have different files. -/
theorem PlainNames.file_injective (hc : c.PlainNames) {kind kind' : ArtifactKind}
    (h : (kind.settings c).file = (kind'.settings c).file) : kind = kind' := by
  have hnodup : (ArtifactKind.all.map fun kind => (kind.settings c).file).Nodup :=
    (List.nodup_append.1 hc.nodup).1
  exact List.inj_on_of_nodup_map hnodup (by cases kind <;> decide) (by cases kind' <;> decide) h

/-- What a run puts into the file of a kind is its artifact of this kind. -/
theorem PlainNames.text_file (hc : c.PlainNames) (work : Place) (k : κ) (kind : ArtifactKind) :
    (c.batches work runs).text k (kind.settings c).file = (runs k).artifactText c kind := by
  rw [batches]
  simp only
  split
  · next kind' hfind =>
    have hfile : (kind'.settings c).file = (kind.settings c).file := by
      simpa using List.find?_some hfind
    rw [hc.file_injective hfile]
  · next hfind =>
    have hmem : kind ∈ ArtifactKind.all := by cases kind <;> decide
    exact absurd (decide_eq_true rfl) (List.find?_eq_none.1 hfind kind hmem)

/-- What a run puts into the last file of its batch is its manifest. -/
theorem PlainNames.text_last (hc : c.PlainNames) (k : κ) :
    (c.batches work runs).text k (c.batches work runs).last = (runs k).manifestText c := by
  have hlast : ∀ kind : ArtifactKind, (kind.settings c).file ≠ c.output.manifest := fun kind =>
    (List.nodup_append.1 hc.nodup).2.2 _ (c.file_mem work runs kind) _ (.head _)
  have hnone : ArtifactKind.all.find? (fun kind => (kind.settings c).file = c.output.manifest) =
      none := List.find?_eq_none.2 fun kind _ => by simp [hlast kind]
  rw [batches]
  simp only [hnone]

end

end Config

namespace EmitRun

variable {κ : Type} {c : Config} {runs : κ → EmitRun} {k : κ} {s : Shared (Option κ)} {work : Place}

/-- The artifacts that a run writes. -/
def files (r : EmitRun) (c : Config) : List (String × String) :=
  ArtifactKind.all.map fun kind => ((kind.settings c).file, r.artifactText c kind)

/-- What a run does when the last manifest is gone. -/
def write (r : EmitRun) (c : Config) : Job (Except CompileError Manifest) := do
  match ← Batch.prepare r.name c.outputDir (r.files c) with
  | .error e => return .error e
  | .ok staged =>
    match ← Batch.publish r.name c.outputDir staged c.output.manifest (r.manifestText c) with
    | .error e => return .error e
    | .ok _ => return .ok (r.plans.manifest r.isPretty c)

/-- A run removes the last manifest before it writes. -/
theorem emit_eq (r : EmitRun) (c : Config) : r.plans.emit r.name r.isPretty c = (do
    match ← c.invalidate with
    | .error e => return .error e
    | .ok () => r.write c) := rfl

section
variable (hc : c.PlainNames) (hB : (c.batches work runs).Apart) (hs : (c.batches work runs).Sound s)
include hc hB hs

/-- A run that writes its artifacts keeps to the rule of the batches. -/
theorem write_works :
    ((runs k).write c).Works (c.batches work runs).Rule (some k) s fun _ _ => True := by
  have hdone (result : Except CompileError Manifest) (s : Shared (Option κ)) :
      (Job.done result).Works (c.batches work runs).Rule (some k) s fun _ _ => True :=
    .done (fun _ _ _ _ _ _ => trivial) trivial
  have hfiles : (runs k).files c =
      (c.batches work runs).names.map fun f => (f, (c.batches work runs).text k f) := by
    rw [files]
    simp only [Config.batches, List.map_map]
    exact List.map_congr_left fun kind _ => congrArg _ (hc.text_file work k kind).symm
  have hlast : (c.batches work runs).text k (c.batches work runs).last = (runs k).manifestText c :=
    hc.text_last k
  rw [write, hfiles, ← hlast]
  refine .bind (.imp (Batches.prepare_works hB hs) ?_)
  rintro (e | staged) s₁ hstaged
  · exact hdone ..
  obtain ⟨rfl, hkeeps⟩ := hstaged staged rfl
  refine .bind (.imp (Batches.publish_works hB hkeeps) ?_)
  rintro (e | paths) s₂ -
  · exact hdone ..
  · exact hdone ..

/-- A run keeps to the rule of the batches from its first request on. -/
theorem emit_works : ((runs k).plans.emit (runs k).name (runs k).isPretty c).Works
    (c.batches work runs).Rule (some k) s fun _ _ => True := by
  rw [emit_eq]
  refine .ask (c.batches work runs).Sound (Batches.stable_sound _) hs (fun s m hs hm => ?_)
    fun s a m hs ha => ?_
  · rw [hm.eq_of_remove]
    exact ⟨.of_changes_empty (Batches.quiet_part ..) (.refl _), hs⟩
  have hquiet : (c.batches work runs).Quiet (some k) s
    (s.answered (some k) (.remove c.manifestPath) a m) :=
    Batches.quiet_remove ..
  rcases ha.of_remove with ⟨t, hremove, rfl, rfl⟩ | ⟨-, rfl, rfl⟩ | ⟨rfl, rfl⟩
  · have hrule := Batches.Rule.remove_last hB hs hquiet.logs hremove
    exact ⟨hrule, write_works hc hB (hrule.sound hs)⟩
  · have hrule := Batches.Rule.of_changes_empty hquiet (.refl _)
    exact ⟨hrule, write_works hc hB (hrule.sound hs)⟩
  · exact ⟨.of_changes_empty hquiet (.refl _), .done (fun _ _ _ _ _ _ => trivial) trivial⟩

end

end EmitRun

namespace LoadedArtifacts

section
variable {κ : Type} {c : Config} {runs : κ → EmitRun} {B : Batches κ} {k : κ}
  {s : Shared (Option κ)} {exchanges : List Exchange} {work : Place}

/-- Who reads a file changes nothing, and knows what it knew when the text was there. -/
theorem readFile_works {path : Path} {holds : Shared (Option κ) → Prop}
    {found : String → Shared (Option κ) → Prop} (hstable : Stable B.Rule none holds)
    (hfound : ∀ text, Stable B.Rule none (found text)) (hs : holds s)
    (hread : ∀ s text, holds s →
      s.machine.tree.at? (path.goal s.machine.tree.work) = some (.file text) →
      B.Rule none s (s.answered none (.read path) (.ok text) s.machine) →
      found text (s.answered none (.read path) (.ok text) s.machine)) :
    (readFile path).run.Works B.Rule none s fun result s' => ∀ text, result = .ok text →
      found text s' := by
  refine .ask holds hstable hs (fun s m hs hm => ?_) fun s a m hs ha => ?_
  · cases hm
    exact ⟨.of_changes_empty (Batches.quiet_part ..) (.refl _), hs⟩
  obtain ⟨rfl, htext⟩ := ha.of_read
  have hrule : B.Rule none s (s.answered none (.read path) a s.machine) :=
    .of_changes_empty (Batches.quiet_read ..) (.refl _)
  refine ⟨hrule, ?_⟩
  cases a with
  | ok text =>
    refine .done (fun q hq s s' hrule h text' htext' => hfound text' q hq s s' hrule
      (h text' htext')) ?_
    intro text' htext'
    cases htext'
    exact hread s text hs (read_eq_ok_iff.1 (htext text rfl)).2.2 hrule
  | error fault => exact .error

/-- The exchange in which a file is read. -/
abbrev hasRead (path : Path) (text : String) : Exchange :=
  ⟨.read path, .ok text⟩

/-- Who loads has read the last file of a run, which was then the last to move one into place. -/
def Manifested (B : Batches κ) (k : κ) (log : List (Option κ × Exchange)) : Prop :=
  ∃ before after, log = before ++ (none, hasRead (B.dir.join B.last) (B.text k B.last)) :: after ∧
    B.Wrote k before

/-- That a reader has read the last file of a run stays true while others work. -/
theorem stable_manifested : Stable B.Rule none fun s => Manifested B k s.log := by
  rintro q - s s' hrule ⟨before, after, hlog, hwrote⟩
  obtain ⟨new, hnew⟩ := hrule.logs
  exact ⟨before, after ++ new.map (q, ·), by rw [hnew, hlog]; simp, hwrote⟩

variable [DecidableEq κ]

/-- What who loads knows when the last file is read: whose it is, and that all others are in place.
-/
structure Found (B : Batches κ) (k : κ) (exchanges : List Exchange) (s : Shared (Option κ)) :
    Prop where
  sound : B.Sound s
  manifested : Manifested B k s.log
  placed : ∀ f ∈ B.names, B.Placed s.machine.tree f
  exchanges : s.exchanges none = exchanges

/-- What a reader has exchanged with the disk is not changed by others. -/
theorem stable_exchanges : Stable B.Rule none fun s => s.exchanges none = exchanges := by
  intro q hq s s' hrule hs
  obtain ⟨new, hnew⟩ := hrule.logs
  rw [Shared.exchanges_of_ne hnew hq, hs]

/-- What a reader has found stays found while others work. -/
theorem stable_found : Stable B.Rule none (Found B k exchanges) :=
  fun q hq s s' hrule hs => ⟨hrule.sound hs.sound, stable_manifested q hq s s' hrule hs.manifested,
    fun f hf => hrule.placed f hf (hs.placed f hf), stable_exchanges q hq s s' hrule hs.exchanges⟩

/-- The manifest that is read is of the run that was the last to move one into place. -/
theorem readManifest_works (hs : B.Sound s) (hexchanges : s.exchanges none = []) :
    (readFile (B.dir.join B.last)).run.Works B.Rule none s fun result s' =>
      ∀ text, result = .ok text → ∃ k, text = B.text k B.last ∧
        Found B k [hasRead (B.dir.join B.last) (B.text k B.last)] s' := by
  have hstable : Stable B.Rule none fun s => B.Sound s ∧ s.exchanges none = [] :=
    fun q hq s s' hrule h => ⟨hrule.sound h.1, stable_exchanges q hq s s' hrule h.2⟩
  refine readFile_works hstable (fun text q hq s s' hrule => ?_) ⟨hs, hexchanges⟩
    fun s text hs hat hrule => ?_
  · rintro ⟨k, htext, hfound⟩
    exact ⟨k, htext, stable_found q hq s s' hrule hfound⟩
  · rw [hs.1.goal_join] at hat
    obtain ⟨k, hwrote, rfl, hplaced⟩ := hs.1.last text hat
    exact ⟨k, rfl, hrule.sound hs.1, ⟨_, [], rfl, hwrote⟩, hplaced,
      by rw [Shared.exchanges_answered, hs.2]; rfl⟩

/-- Any other file has the text of one of the runs when it is read. -/
theorem readPlaced_works {f : String} (hf : f ∈ B.names) (hs : Found B k exchanges s) :
    (readFile (B.dir.join f)).run.Works B.Rule none s fun result s' => ∀ text, result = .ok text →
      ∃ k', text = B.text k' f ∧ Found B k (exchanges ++ [hasRead (B.dir.join f) text]) s' := by
  refine readFile_works stable_found (fun text q hq s s' hrule => ?_) hs
    fun s text hs hat hrule => ?_
  · rintro ⟨k', htext, hfound⟩
    exact ⟨k', htext, stable_found q hq s s' hrule hfound⟩
  · obtain ⟨k', hat'⟩ := hs.placed f hf
    rw [hs.sound.goal_join] at hat
    cases hat.symm.trans hat'
    obtain ⟨before, after, hlog, hwrote⟩ := hs.manifested
    refine ⟨k', rfl, hrule.sound hs.sound,
      ⟨before, after ++ [(none, hasRead (B.dir.join f) (B.text k' f))], ?_, hwrote⟩, hs.placed, ?_⟩
    · rw [Shared.answered, hlog]
      simp
    · rw [Shared.exchanges_answered, hs.exchanges]

/-- Digests tell the texts of the runs for a kind of artifact apart. -/
def Distinguished (c : Config) (runs : κ → EmitRun) : Prop :=
  ∀ kind k k',
    Sha256.ofText ((runs k).artifactText c kind) = Sha256.ofText ((runs k').artifactText c kind) →
    (runs k).artifactText c kind = (runs k').artifactText c kind

/-- An artifact that passes the check is the one that the run of the manifest has written. -/
theorem readArtifact_works {α : Type} {read : Datum → Option α} (hc : c.PlainNames)
    (hdigests : Distinguished c runs) (kind : ArtifactKind)
    (hs : Found (c.batches work runs) k exchanges s) :
    (readArtifact c.outputDir ((runs k).plans.manifest (runs k).isPretty c) kind read).run.Works
      (c.batches work runs).Rule none s fun result s' => ∀ a, result = .ok a →
        decode read (c.outputDir.join (kind.settings c).file)
          ((runs k).artifactText c kind) = .ok a ∧
          Found (c.batches work runs) k (exchanges ++
            [hasRead (c.outputDir.join (kind.settings c).file)
              ((runs k).artifactText c kind)]) s' := by
  have hread := readPlaced_works (c.file_mem work runs kind) hs
  simp only [hc.text_file] at hread
  rw [readArtifact, find?_manifest]
  refine .bindExcept hread fun text s' => ?_
  rintro ⟨k', rfl, hfound⟩
  split
  · next hdigest =>
    have htext : (runs k').artifactText c kind = (runs k).artifactText c kind :=
      hdigests kind k' k hdigest
    rw [htext] at hfound ⊢
    refine .done (fun q hq s s' hrule h a ha => ?_) fun a ha => ?_
    · exact ⟨(h a ha).1, stable_found q hq s s' hrule (h a ha).2⟩
    · exact ⟨ha, hfound⟩
  · exact .error

/-- The artifacts are the contents of these texts. -/
structure MadeFrom (a : LoadedArtifacts) (text : ArtifactKind → String) : Prop where
  container : decode ContainerContent.ofDatum? (a.path .container) (text .container) =
    .ok ⟨a.plans.container, a.config⟩
  router : decode RouterPlan.ofDatum? (a.path .router) (text .router) = .ok a.plans.router
  middleware : decode MiddlewarePlan.ofDatum? (a.path .middleware) (text .middleware) =
    .ok a.plans.middleware
  listeners : decode ListenerTable.ofDatum? (a.path .listeners) (text .listeners) =
    .ok a.plans.listeners

/-- What was loaded is of one run: it was the last to move a manifest into place when that was read,
and all files that were read are the ones that it wrote. -/
structure OfRun (c : Config) (runs : κ → EmitRun) (k : κ) (a : LoadedArtifacts)
    (s : Shared (Option κ)) : Prop where
  manifested : ∃ before between after,
    s.log = before ++ (some k, (runs k).movesManifest c) :: between ++
      (none, hasRead c.manifestPath ((runs k).manifestText c)) :: after ∧
    ∀ k', (some k', (runs k').movesManifest c) ∉ between
  exchanges : s.exchanges none = hasRead c.manifestPath ((runs k).manifestText c) ::
    ArtifactKind.all.map fun kind =>
      hasRead (c.outputDir.join (kind.settings c).file) ((runs k).artifactText c kind)
  manifest : a.manifest = (runs k).plans.manifest (runs k).isPretty c
  artifacts : a.MadeFrom ((runs k).artifactText c)

/-- A reader beside any number of runs gets, if it gets anything, the artifacts of one of them. -/
theorem load_works (hc : c.PlainNames) (hdigests : Distinguished c runs)
    (hs : (c.batches work runs).Sound s) (hexchanges : s.exchanges none = []) :
    (load c).run.Works (c.batches work runs).Rule none s fun result s' => ∀ a, result = .ok a →
      ∃ k, a.OfRun c runs k s' := by
  have hmanifested {k : κ} {s : Shared (Option κ)} (h : Manifested (c.batches work runs) k s.log) :
      ∃ before between after,
        s.log = before ++ (some k, (runs k).movesManifest c) :: between ++
          (none, hasRead c.manifestPath ((runs k).manifestText c)) :: after ∧
        ∀ k', (some k', (runs k').movesManifest c) ∉ between := by
    obtain ⟨_, after, hlog, before, between, rfl, hbetween⟩ := h
    rw [hc.text_last] at hlog
    exact ⟨before, between, after, hlog, hbetween⟩
  rw [load]
  refine .bindExcept (readManifest_works hs hexchanges) fun text s₁ => ?_
  rintro ⟨k, rfl, hs₁⟩
  rw [hc.text_last] at hs₁ ⊢
  rw [EmitRun.manifestText, decode_manifest, lift_ok_bind]
  refine .bindExcept (readArtifact_works hc hdigests .container hs₁) ?_
  rintro content s₂ ⟨hcontent, hs₂⟩
  refine .bindExcept (readArtifact_works hc hdigests .router hs₂) ?_
  rintro router s₃ ⟨hrouter, hs₃⟩
  refine .bindExcept (readArtifact_works hc hdigests .middleware hs₃) ?_
  rintro middleware s₄ ⟨hmiddleware, hs₄⟩
  refine .bindExcept (readArtifact_works hc hdigests .listeners hs₄) ?_
  rintro listeners s₅ ⟨hlisteners, hs₅⟩
  refine .done (fun q hq s s' hrule h a ha => ?_) fun a ha => ?_
  · obtain ⟨k, h⟩ := h a ha
    obtain ⟨before, between, after, hlog, hbetween⟩ := h.manifested
    obtain ⟨new, hnew⟩ := hrule.logs
    exact ⟨k, ⟨before, between, after ++ new.map (q, ·), by rw [hnew, hlog]; simp, hbetween⟩,
      stable_exchanges q hq s s' hrule h.exchanges, h.manifest, h.artifacts⟩
  · cases ha
    exact ⟨k, hmanifested hs₅.manifested, hs₅.exchanges, rfl, hcontent, hrouter,
      hmiddleware, hlisteners⟩

end

end LoadedArtifacts

namespace Config

section
variable {κ : Type} {c : Config} {runs : κ → EmitRun}

/-- What a process comes to: the one that loads, or a run. -/
abbrev Ending : Option κ → Type
  | none => Except ServeError LoadedArtifacts
  | some _ => Except CompileError Manifest

/-- The jobs of the processes: one loads, the others write. -/
def jobs (c : Config) (runs : κ → EmitRun) : (p : Option κ) → Job (Ending p)
  | none => (LoadedArtifacts.load c).run
  | some k => (runs k).plans.emit (runs k).name (runs k).isPretty c

/-- What holds when a process has come to its end: what was loaded is of one run. -/
def Ended (c : Config) (runs : κ → EmitRun) [DecidableEq κ] :
    (p : Option κ) → Ending p → Shared (Option κ) → Prop
  | none => fun result s => ∀ a, result = .ok a → ∃ k, a.OfRun c runs k s
  | some _ => fun _ _ => True

end

end Config

namespace LoadedArtifacts

/-- Whatever runs write artifacts with names of their own in the meantime, into whatever output
directory, and wherever they stop: what is loaded is of one run, the one that moved the manifest
into place that was read. -/
theorem exists_ofRun {κ : Type} [DecidableEq κ] {c : Config} {runs : κ → EmitRun} {m : Machine}
    {jobs : (p : Option κ) → Job (Config.Ending p)} {s : Shared (Option κ)} {a : LoadedArtifacts}
    (hc : c.OwnNames) (hpids : ∀ k k', (runs k).pid = (runs k').pid → k = k')
    (hdigests : Distinguished c runs)
    (hm : c.Unpublished m) (h : Interleaved (c.jobs runs) { machine := m } jobs s)
    (ha : jobs none = .done (.ok a)) : ∃ k, a.OfRun c runs k s := by
  have hB := hc.apart_batches hpids m.tree.work
  have hsound : (c.batches m.tree.work runs).Sound { machine := m } :=
    ⟨rfl, fun text htext => absurd htext (hm text)⟩
  have hworks : ∀ p, (c.jobs runs p).Works (c.batches m.tree.work runs).Rule p { machine := m }
      (c.Ended runs p)
    | none => load_works hc.toPlainNames hdigests hsound rfl
    | some k => EmitRun.emit_works hc.toPlainNames hB hsound
  have hleads := h.leads hworks none
  rw [ha] at hleads
  exact (hworks none).completed hleads a rfl

/-- Two runs that come to their end one after the other leave the files of the second one, and
whoever loads then reads these. -/
theorem exists_turns {κ : Type} [DecidableEq κ] {c : Config} (runs : κ → EmitRun) {m : Machine}
    {k k' : κ} (hc : c.OwnNames) (hpretty : ∀ k, (runs k).isPretty = true) (hne : k ≠ k')
    (hm : c.Settled m)
    (hok : ((m.run (c.jobs runs (some k))).2.run (c.jobs runs (some k'))).1.isOk = true) :
    ∃ m' jobs log, c.Published (runs k').plans m' ∧
      Interleaved (c.jobs runs) { machine := m } jobs ⟨(m'.run (load c).run).2, log⟩ ∧
        jobs none = .done (m'.run (load c).run).1 := by
  have hjob k : c.jobs runs (some k) = (runs k).plans.emit (runs k).name true c := by
    rw [← hpretty k]
    rfl
  obtain ⟨jobs, log, hjobs, hdone⟩ := exists_interleaved_runs (c.jobs runs) { machine := m }
    [some k, some k'] none (by simpa using hne) rfl
  refine ⟨_, jobs, log, ?_, hjobs, hdone⟩
  rw [hjob k, hjob k'] at hok
  simp only [List.foldl_cons, List.foldl_nil, hjob]
  have hfirst := (Plans.run_emit (runs k).plans hc.toPlainNames (hc.admits (runs k).pid) hm).1
  exact (Plans.run_emit _ hc.toPlainNames (hc.admits (runs k').pid) hfirst).2 hok

/-- Two runs of which one writes a middleware more than the other. -/
def twoRuns : Bool → EmitRun
  | true => ⟨1, { middleware := ⟨[⟨"app::Auth", 1⟩]⟩ }, true⟩
  | false => ⟨2, {}, true⟩

/-- Digests tell the artifacts of the two runs apart. -/
theorem distinguished_twoRuns : Distinguished History.deployed twoRuns := by
  have hmiddleware : Sha256.ofText ((twoRuns true).artifactText History.deployed .middleware) ≠
      Sha256.ofText ((twoRuns false).artifactText History.deployed .middleware) := by decide +kernel
  intro kind k k' h
  cases kind with
  | middleware =>
    cases k <;> cases k'
    · rfl
    · exact absurd h.symm hmiddleware
    · exact absurd h hmiddleware
    · rfl
  | _ => cases k <;> cases k' <;> rfl

/-- One run writes into an absolute directory, then the other one with other middlewares, and the
artifacts are loaded. -/
theorem exists_ofRun_twoRuns : ∃ (jobs : (p : Option Bool) → Job (Config.Ending p))
    (s : Shared (Option Bool)) (a : LoadedArtifacts),
    Interleaved (History.deployed.jobs twoRuns) { machine := {} } jobs s ∧
      jobs none = .done (.ok a) ∧ ∃ k, a.OfRun History.deployed twoRuns k s := by
  have hc := History.deployed_ownNames
  have hpids : ∀ k k', (twoRuns k).pid = (twoRuns k').pid → k = k' := by decide
  have hempty := History.deployed.unpublished_empty
  obtain ⟨m, jobs, log, hpublished, hjobs, hdone⟩ := exists_turns twoRuns hc (by decide)
    (show true ≠ false by decide) (.inl hempty) (by decide +kernel)
  obtain ⟨a, ha⟩ := History.exists_load_empty hpublished
  rw [ha] at hdone
  exact ⟨jobs, _, a, hjobs, hdone, exists_ofRun hc hpids distinguished_twoRuns hempty hjobs hdone⟩

end LoadedArtifacts

end Wiring
