import Wiring.Proofs.Artifact.Emit
import Wiring.Proofs.Config.Check
import Wiring.Proofs.Disk.Spelling

/-!
# Names of artifacts

A configuration that passes its check has five different names for its artifacts and their manifest,
none of them empty. Seen from the output directory they can still be spellings of one path, and only
then two of the paths are the same (`artifactPaths_of_check`). Plain names are no spellings of each
other: their paths lead to places of their own, and a compilation that completes leaves every
artifact as it was written.
-/

namespace Wiring.Config

open Disk

section
variable {c : Config} {seen names : List String}

/-- Names of which none is refused are not empty, and no two are the same. -/
theorem of_emptyOrRepeated?_eq_none (h : emptyOrRepeated? seen names = none) :
    (∀ s ∈ names, s ≠ "" ∧ s ∉ seen) ∧ names.Nodup := by
  induction names generalizing seen with
  | nil => exact ⟨nofun, .nil⟩
  | cons s rest ih =>
    rw [emptyOrRepeated?] at h
    split at h
    · cases h
    · next hs =>
      obtain ⟨hempty, hseen⟩ := not_or.1 hs
      obtain ⟨hrest, hnodup⟩ := ih h
      refine ⟨List.forall_mem_cons.2 ⟨⟨hempty, hseen⟩, fun s' hs' => ?_⟩,
        List.nodup_cons.2 ⟨fun hmem => (hrest s hmem).2 (.head _), hnodup⟩⟩
      exact ⟨(hrest s' hs').1, fun hmem => (hrest s' hs').2 (.tail _ hmem)⟩

/-- The files of a configuration that passes the check have different names, none of them empty. -/
theorem artifactFiles_of_check (h : c.check = .ok ()) :
    "" ∉ c.artifactFiles ∧ c.artifactFiles.Nodup := by
  obtain ⟨_, -, h⟩ := Result.bind_eq_ok.1 h
  simp only at h
  split at h
  · cases h
  · next hnone =>
    obtain ⟨hnames, hnodup⟩ :=
      of_emptyOrRepeated?_eq_none (Option.eq_none_iff_forall_ne_some.2 hnone)
    exact ⟨fun hempty => (hnames "" hempty).1 rfl, hnodup⟩

/-- The paths of the artifacts are different if no two names are spellings of one path. -/
theorem pairwise_artifactPaths_iff : c.artifactPaths.Pairwise (fun p q => p.same q = false) ↔
    c.artifactFiles.Pairwise fun f g => ¬ Path.SameIn c.outputDir f g := by
  rw [artifactPaths, List.pairwise_map]
  refine List.Pairwise.iff fun f g => ?_
  rw [← Path.same_join_iff, Bool.not_eq_true]

/-- The places of artifacts whose names go down are different if the names leave different trails.
-/
theorem nodup_goals_iff (h : ∀ f ∈ c.artifactFiles, Path.Descends f) (work : Place) :
    (c.artifactPaths.map (Path.goal · work)).Nodup ↔ (c.artifactFiles.map Path.trail).Nodup := by
  rw [artifactPaths, List.map_map, List.Nodup, List.Nodup, List.pairwise_map, List.pairwise_map]
  refine List.Pairwise.iff_of_mem fun hf hg => not_congr ?_
  exact Path.goal_join_eq_iff (h _ hf) (h _ hg)

/-- Paths to different places are different. -/
theorem pairwise_of_nodup_goals {paths : List Path} {work : Place}
    (h : (paths.map (Path.goal · work)).Nodup) :
    paths.Pairwise fun p q => p.same q = false := by
  rw [List.Nodup, List.pairwise_map] at h
  exact h.imp fun hgoal => Bool.eq_false_iff.2 fun hsame => hgoal (Path.goal_eq_of_same hsame work)

/-- The paths of the artifacts of a configuration that passes its check are different unless two
names are spellings of one path, and their places are, where all names go down, unless two names
leave one trail. So nothing is written in the place of something else if all names are plain. -/
theorem artifactPaths_of_check (h : c.check = .ok ()) :
    "" ∉ c.artifactFiles ∧ c.artifactFiles.Nodup ∧
      (c.artifactPaths.Pairwise (fun p q => p.same q = false) ↔
        c.artifactFiles.Pairwise fun f g => ¬ Path.SameIn c.outputDir f g) ∧
      ((∀ f ∈ c.artifactFiles, Path.Descends f) →
        ∀ work, (c.artifactPaths.map (Path.goal · work)).Nodup ↔
          (c.artifactFiles.map Path.trail).Nodup) ∧
      ((∀ f ∈ c.artifactFiles, Path.IsPlain f) →
        c.artifactPaths.Pairwise (fun p q => p.same q = false) ∧
          (∀ work, (c.artifactPaths.map (Path.goal · work)).Nodup) ∧
          ∀ (plans : Plans) (run : String) (m : Machine), c.Admits run → c.Settled m →
            (m.run (plans.emit run true c)).1.isOk = true →
              c.Published plans (m.run (plans.emit run true c)).2) := by
  obtain ⟨hempty, hnodup⟩ := artifactFiles_of_check h
  refine ⟨hempty, hnodup, pairwise_artifactPaths_iff, nodup_goals_iff, fun hplain => ?_⟩
  have hgoals (work : Place) : (c.artifactPaths.map (Path.goal · work)).Nodup := by
    rw [nodup_goals_iff fun f hf => (hplain f hf).descends]
    refine hnodup.map_on fun f hf g hg htrail => ?_
    rw [(hplain f hf).trail, (hplain g hg).trail] at htrail
    cases htrail
    rfl
  refine ⟨pairwise_of_nodup_goals (hgoals []), hgoals, fun plans run m hrun hm => ?_⟩
  exact (plans.run_emit ⟨hplain, hnodup⟩ hrun hm).2

/-- A project whose artifacts lie in a directory for each of them, but for the last. -/
def nestedConfig : Config where
  output := {
    container := { file := "container/plan.json", module := "app::container" }
    router := { file := "router/./plan.json", module := "app::router" } }

/-- The artifacts in a nested directory have different paths, which lead to different places. -/
theorem artifactPaths_of_check_nested : nestedConfig.check = .ok () ∧
    nestedConfig.artifactPaths.Pairwise (fun p q => p.same q = false) ∧
      ∀ work, (nestedConfig.artifactPaths.map (Path.goal · work)).Nodup := by
  have hcheck : nestedConfig.check = .ok () := Result.toOption_eq_some.1 (by decide +kernel)
  obtain ⟨-, -, -, hgoals, -⟩ := artifactPaths_of_check hcheck
  have hnodup work := (hgoals (by decide +kernel) work).2 (by decide +kernel)
  exact ⟨hcheck, pairwise_of_nodup_goals (hnodup []), hnodup⟩

/-- A name that is not repeated can be another spelling of one that is there. -/
theorem exists_same_artifactPaths : ∃ c : Config, c.check = .ok () ∧
    ¬ c.artifactPaths.Pairwise fun p q => p.same q = false :=
  ⟨{ output := { router := { file := "./container.json", module := "app::router" } } },
    Result.toOption_eq_some.1 (by decide +kernel), by decide +kernel⟩

end

end Wiring.Config
