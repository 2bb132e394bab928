import Wiring.Artifact.Emit
import Wiring.Proofs.Artifact.Batch

/-!
# Writing artifacts that is stopped

A configuration whose artifacts have plain names gives all files of a batch, staged and final,
places of their own (`Config.PlainNames.separates`). So from a machine without a manifest, writing
artifacts leaves either no manifest or all files of these artifacts, the manifest included
(`replace_meets`).
-/

namespace Wiring

open Disk Tree

namespace Staged

variable {run file : String}

/-- The name under which a run stages a file. -/
def stagingName (run file : String) : String :=
  "." ++ file ++ "." ++ run ++ ".staged"

/-- A staging name is the name of the file between two dots, then the run and a suffix. -/
theorem toList_stagingName (run file : String) : (stagingName run file).toList =
    '.' :: (file.toList ++ '.' :: (run.toList ++ ".staged".toList)) := by
  simp [stagingName]

/-- A staging name is one component of a path if the run and the file are. -/
theorem isPlain_stagingName (hrun : '/' ∉ run.toList) (hfile : '/' ∉ file.toList) :
    Path.IsPlain (stagingName run file) := by
  have hlength : 2 < (stagingName run file).toList.length := by
    rw [toList_stagingName]
    simp
    omega
  refine ⟨?_, ?_, ?_, ?_⟩
  · intro h
    simp [h] at hlength
  · intro h
    simp [h] at hlength
  · intro h
    simp [h] at hlength
  · rw [toList_stagingName]
    simp [hrun, hfile]

/-- One run stages different files under different names. -/
theorem stagingName_injective (run : String) : Function.Injective (stagingName run) := by
  intro file file' h
  have hlist := congrArg String.toList h
  rw [toList_stagingName, toList_stagingName] at hlist
  exact String.toList_inj.1 (List.append_cancel_right (List.cons.inj hlist).2)

/-- A staged file has its staging name. -/
theorem getLast?_goal_staging (hrun : '/' ∉ run.toList) (hfile : Path.IsPlain file) (dir : Path)
    (work : Place) :
    ((of run dir file).staging.goal work).getLast? = some (stagingName run file) := by
  rw [of]
  simp only [Path.fileName?_join dir hfile, Option.getD_some]
  exact Path.getLast?_goal_withFileName _ (isPlain_stagingName hrun hfile.slash) work

/-- Processes are named by their numbers, which have digits only. -/
theorem isDigit_of_mem_toString {pid : Nat} {ch : Char} (h : ch ∈ (toString pid).toList) :
    ch.isDigit = true := by
  rw [Nat.toString_eq_ofList_toDigits, String.toList_ofList] at h
  exact Nat.isDigit_of_mem_toDigits (by decide) (by decide) h

/-- The digits of a process identifier hold nothing but digits. -/
theorem notMem_toString (pid : Nat) {ch : Char} (h : ch.isDigit = false) :
    ch ∉ (toString pid).toList := by
  intro hmem
  rw [isDigit_of_mem_toString hmem] at h
  cases h

end Staged

namespace Config

/-- The files of the artifacts have different names, and none of these is a path. -/
structure PlainNames (c : Config) : Prop where
  plain : ∀ f ∈ c.artifactFiles, Path.IsPlain f
  nodup : c.artifactFiles.Nodup

/-- The name of a run is part of a file name, and no artifact is called as the run calls a staged
one. -/
structure Admits (c : Config) (run : String) : Prop where
  slash : '/' ∉ run.toList
  unstaged : ∀ f ∈ c.artifactFiles, ∀ f' ∈ c.artifactFiles, f ≠ Staged.stagingName run f'

/-- Artifacts have names of their own, which are no paths and not those that a process stages
artifacts under: where one artifact is staged in the place of another, the other can be read while
the one is there in part. Names that do not start with a dot will do (`OwnNames.of_dotless`). -/
structure OwnNames (c : Config) : Prop extends c.PlainNames where
  unstaged : ∀ pid : Nat, ∀ f ∈ c.artifactFiles, ∀ f' ∈ c.artifactFiles,
    f ≠ Staged.stagingName (toString pid) f'

/-- The number of a process can name its run. -/
theorem OwnNames.admits {c : Config} (hc : c.OwnNames) (pid : Nat) : c.Admits (toString pid) :=
  ⟨Staged.notMem_toString pid rfl, hc.unstaged pid⟩

/-- Names that do not start with a dot are none of staged files. -/
theorem OwnNames.of_dotless {c : Config} (hc : c.PlainNames)
    (h : ∀ f ∈ c.artifactFiles, f.toList.head? ≠ some '.') : c.OwnNames := by
  refine ⟨hc, fun pid f hf f' _ heq => h f hf ?_⟩
  rw [heq, Staged.toList_stagingName, List.head?_cons]

/-- The files that a run writes, staged and final, have places of their own, seen from a working
directory. -/
def Separates (c : Config) (work : Place) (run : String) : Prop :=
  ((c.artifactFiles.map fun f => (c.outputDir.join f).goal work) ++
    c.artifactFiles.map fun f => (Staged.of run c.outputDir f).staging.goal work).Nodup

/-- Plain names have places of their own, wherever they are seen from. -/
theorem PlainNames.separates {c : Config} {run : String} (hc : c.PlainNames) (hrun : c.Admits run)
    (work : Place) : c.Separates work run := by
  have htarget f (hf : f ∈ c.artifactFiles) :=
    Path.getLast?_goal_join c.outputDir (hc.plain f hf) work
  have hstaging f (hf : f ∈ c.artifactFiles) :=
    Staged.getLast?_goal_staging hrun.slash (hc.plain f hf) c.outputDir work
  rw [Separates, List.nodup_append]
  refine ⟨hc.nodup.map_on ?_, hc.nodup.map_on ?_, ?_⟩
  · exact fun f hf f' hf' h => Path.eq_of_getLast? (htarget f hf) (htarget f' hf') h
  · intro f hf f' hf' h
    exact Staged.stagingName_injective run (Path.eq_of_getLast? (hstaging f hf) (hstaging f' hf') h)
  · intro x hx y hy heq
    obtain ⟨f, hf, rfl⟩ := List.mem_map.1 hx
    obtain ⟨f', hf', rfl⟩ := List.mem_map.1 hy
    exact hrun.unstaged f hf f' hf' (Path.eq_of_getLast? (htarget f hf) (hstaging f' hf') heq)

/-- Where the paths of a configuration are kept separate, the files of a run are staged apart. -/
theorem Separates.apart {c : Config} {work : Place} {run file : String}
    {files : List (String × String)} (h : c.Separates work run)
    (hfiles : files.map (·.1) ++ [file] = c.artifactFiles) :
    Staged.Apart work (Staged.ofAll run c.outputDir files) (Staged.of run c.outputDir file) := by
  rw [Separates, ← hfiles] at h
  simpa [Staged.Apart, Staged.targets, Staged.stagings, Staged.ofAll, Function.comp_def] using h

/-- All files of a compilation are there: the artifacts of these plans and their manifest. -/
structure Published (c : Config) (p : Plans) (m : Machine) : Prop where
  artifact : ∀ kind : ArtifactKind,
    m.tree.read (c.outputDir.join (kind.settings c).file) = .ok (p.artifactText true c kind)
  manifest : m.tree.read c.manifestPath = .ok ((p.manifest true c).text true)

/-- There is no manifest. -/
def Unpublished (c : Config) (m : Machine) : Prop :=
  m.tree.Vacant (c.manifestPath.goal m.tree.work)

/-- There is no manifest, or all files of a compilation are there. -/
def Settled (c : Config) (m : Machine) : Prop :=
  c.Unpublished m ∨ ∃ p, c.Published p m

variable {c : Config} {m m' : Machine} {places : Set Place}

/-- There is no manifest just if the tree is without a file at its place. -/
theorem unpublished_iff {work : Place} (hwork : m.tree.work = work) :
    c.Unpublished m ↔ m.tree.Without work (c.manifestPath.goal work) := by
  subst hwork
  exact ⟨fun h => ⟨rfl, h⟩, fun h => h.vacant⟩

/-- The manifest is one of the artifacts. -/
theorem manifestPath_mem (c : Config) : c.manifestPath ∈ c.artifactPaths := by
  simp [artifactPaths, artifactFiles, manifestPath]

/-- The file of a kind of artifact is one of the artifacts. -/
theorem path_mem (c : Config) (kind : ArtifactKind) :
    c.outputDir.join (kind.settings c).file ∈ c.artifactPaths := by
  cases kind <;> simp [artifactPaths, artifactFiles, ArtifactKind.settings]

/-- What is done with other files neither makes nor changes artifacts. -/
theorem Published.of_changes {p : Plans} (h : c.Published p m)
    (hm : m.tree.Changes places m'.tree)
    (hplaces : ∀ p ∈ c.artifactPaths, p.goal m.tree.work ∉ places) : c.Published p m' :=
  ⟨fun kind => hm.read (hplaces _ (c.path_mem kind)) (h.artifact kind),
    hm.read (hplaces _ c.manifestPath_mem) h.manifest⟩

/-- A manifest that was removed is gone. -/
theorem unpublished_of_remove {t : Tree} (h : m.tree.remove c.manifestPath = .ok t) :
    c.Unpublished { m with tree := t } := by
  refine vacant_of_at? ?_
  rw [(Changes.remove h).work]
  exact at?_of_remove h

/-- Where there are no files, there is no manifest. -/
theorem unpublished_empty (c : Config) : c.Unpublished {} := by
  intro text htext
  have hwork {g : Place} (h : ([(["work"], .directory)] : List (Place × Node)).lookup g =
      some (.file text)) : False := by
    rw [List.lookup_cons] at h
    split at h <;> cases h
  cases hgoal : c.manifestPath.goal ["work"] with
  | nil =>
    rw [hgoal] at htext
    cases htext
  | cons s g =>
    rw [hgoal] at htext
    exact hwork htext

/-- Changes away from the artifacts publish nothing. -/
theorem Unpublished.of_changes (h : c.Unpublished m) (hm : m.tree.Changes places m'.tree)
    (hplaces : ∀ p ∈ c.artifactPaths, p.goal m.tree.work ∉ places) : c.Unpublished m' := by
  rw [Unpublished, hm.work]
  exact hm.vacant (hplaces _ c.manifestPath_mem) h

/-- The paths of artifacts in an absolute directory are absolute. -/
theorem PlainNames.isAbsolute_of_mem {path : Path} (hc : c.PlainNames)
    (hdir : c.outputDir.isAbsolute = true) (hpath : path ∈ c.artifactPaths) :
    path.isAbsolute = true := by
  obtain ⟨f, hf, rfl⟩ := List.mem_map.1 hpath
  rw [Path.isAbsolute_join (Path.ne_empty_of_isAbsolute hdir) (hc.plain f hf).isAbsolute, hdir]

/-- Artifacts in an absolute directory are there from every working directory. -/
theorem Published.seenFrom {p : Plans} (h : c.Published p m) (hc : c.PlainNames)
    (hdir : c.outputDir.isAbsolute = true) (work : Place) :
    c.Published p { m with tree := m.tree.seenFrom work } := by
  constructor
  · intro kind
    exact (read_seenFrom (hc.isAbsolute_of_mem hdir (c.path_mem kind)) work).trans (h.artifact kind)
  · exact (read_seenFrom (hc.isAbsolute_of_mem hdir c.manifestPath_mem) work).trans h.manifest

/-- In an absolute directory nothing is published, from whatever place it is looked at. -/
theorem Unpublished.seenFrom (h : c.Unpublished m) (hc : c.PlainNames)
    (hdir : c.outputDir.isAbsolute = true) (work : Place) :
    c.Unpublished { m with tree := m.tree.seenFrom work } := by
  have hgoal : c.manifestPath.goal work = c.manifestPath.goal m.tree.work :=
    Path.goal_of_isAbsolute (hc.isAbsolute_of_mem hdir c.manifestPath_mem) ..
  intro text hat
  rw [work_seenFrom, at?_seenFrom, hgoal] at hat
  exact h text hat

end Config

namespace Plans

/-- The files of the artifacts with their texts. -/
def files (p : Plans) (c : Config) : List (String × String) :=
  ArtifactKind.all.map fun kind => ((kind.settings c).file, p.artifactText true c kind)

/-- Writes artifacts where no manifest is left. -/
def replace (p : Plans) (run : String) (c : Config) : Job (Except CompileError Manifest) := do
  match ← Batch.prepare run c.outputDir (p.files c) with
  | .error e => return .error e
  | .ok staged =>
    match ← Batch.publish run c.outputDir staged c.output.manifest
        ((p.manifest true c).text true) with
    | .error e => return .error e
    | .ok _ => return .ok (p.manifest true c)

/-- Artifacts are written once the last manifest is gone. -/
theorem emit_eq (p : Plans) (run : String) (c : Config) : p.emit run true c = (do
    match ← c.invalidate with
    | .error e => return .error e
    | .ok () => p.replace run c) := rfl

/-- However far the writing of artifacts comes, there is no manifest before all files are there. -/
theorem replace_meets {c : Config} {run : String} {m : Machine} (p : Plans) (hc : c.PlainNames)
    (hrun : c.Admits run) (hm : c.Unpublished m) :
    (p.replace run c).Meets m c.Unpublished fun result m' =>
      match result with
      | .error _ => c.Unpublished m'
      | .ok _ => c.Published p m' := by
  have hapart := (hc.separates hrun m.tree.work).apart
    (show (p.files c).map (·.1) ++ [c.output.manifest] = c.artifactFiles from rfl)
  obtain ⟨hfiles, -, -, -, hg, -⟩ := Batch.nodup_of_concat hapart
  have hgone (m' : Machine) (h : m'.tree.Without m.tree.work (c.manifestPath.goal m.tree.work)) :
      c.Unpublished m' := (Config.unpublished_iff h.work).2 h
  rw [Config.unpublished_iff rfl] at hm
  rw [replace]
  refine .bind (.imp (Batch.prepare_meets hg hfiles.of_append_right hm) hgone ?_)
  rintro (e | staged) m₁ ⟨hm₁, hstaged⟩
  · exact .done (hgone m₁ hm₁)
  obtain ⟨rfl, hholds⟩ := hstaged staged rfl
  refine .bind (.imp (Batch.publish_meets hapart hholds hm₁) hgone ?_)
  rintro (e | paths) m₂ hpublished
  · exact .done (hgone m₂ hpublished)
  · refine .done ⟨fun kind => ?_, ?_⟩
    · refine hpublished (c.outputDir.join (kind.settings c).file, p.artifactText true c kind) ?_
      have hkind : kind ∈ ArtifactKind.all := by cases kind <;> decide
      simp only [Staged.targets, Staged.ofAll, files, List.map_append, List.map_map]
      exact List.mem_append_left _ (List.mem_map_of_mem hkind)
    · refine hpublished (c.manifestPath, (p.manifest true c).text true) ?_
      simp only [Staged.targets, List.map_append, List.map_cons, List.map_nil, Staged.of_target]
      exact List.mem_append_right _ (.head _)

/-- Writing artifacts leaves a settled directory settled, and if it completes, all files of these
artifacts. -/
theorem emit_meets {c : Config} {run : String} {m : Machine} (p : Plans) (hc : c.PlainNames)
    (hrun : c.Admits run) (hm : c.Settled m) :
    (p.emit run true c).Meets m c.Settled fun result m' =>
      c.Settled m' ∧ ∀ manifest, result = .ok manifest → c.Published p m' := by
  have hgone {m : Machine} (hm : c.Unpublished m) : (p.replace run c).Meets m c.Settled
      fun result m' => c.Settled m' ∧ ∀ manifest, result = .ok manifest → c.Published p m' := by
    refine .imp (p.replace_meets hc hrun hm) (fun _ h => .inl h) ?_
    rintro (e | manifest) m' h
    · exact ⟨.inl h, nofun⟩
    · exact ⟨.inr ⟨p, h⟩, fun _ _ => h⟩
  rw [emit_eq]
  refine .ask (fun m' h => h.eq_of_remove ▸ hm) fun a m' ha => ?_
  rcases ha.of_remove with ⟨t, hremove, rfl, rfl⟩ | ⟨hremove, rfl, rfl⟩ | ⟨rfl, rfl⟩
  · exact hgone (Config.unpublished_of_remove hremove)
  · refine hgone ?_
    -- A manifest that is there is not missing.
    rcases hm with hm | ⟨p', hp'⟩
    · exact hm
    · rw [remove_of_read hp'.manifest] at hremove
      cases hremove
  · exact .done ⟨hm, nofun⟩

/-- A machine that does all it is asked to. -/
theorem run_emit {c : Config} {run : String} {m : Machine} (p : Plans) (hc : c.PlainNames)
    (hrun : c.Admits run) (hm : c.Settled m) :
    c.Settled (m.run (p.emit run true c)).2 ∧
      ((m.run (p.emit run true c)).1.isOk = true →
        c.Published p (m.run (p.emit run true c)).2) := by
  obtain ⟨events, hruns⟩ := runs_run m (p.emit run true c)
  obtain ⟨hsettled, hpublished⟩ := (p.emit_meets hc hrun hm).completed hruns
  refine ⟨hsettled, fun hok => ?_⟩
  obtain ⟨manifest, hresult⟩ := Result.isOk_iff.1 hok
  exact hpublished manifest hresult

end Plans

end Wiring
