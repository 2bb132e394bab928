import Mathlib.Data.List.Nodup
import Wiring.Artifact.Batch
import Wiring.Proofs.Disk.Run

/-!
# Batches that are stopped

However far the writing of a batch comes, its last file is not there before it is moved into place,
and then all others are there with their texts (`publish_meets`). This takes that the final names
and the staging names of the batch lead to different places.
-/

namespace Wiring

open Disk Tree

namespace Staged

/-- Files with their texts, under their staging names. -/
def stagings (files : List (Staged × String)) : List (Path × String) :=
  files.map fun f => (f.1.staging, f.2)

/-- Files with their texts, under their final names. -/
def targets (files : List (Staged × String)) : List (Path × String) :=
  files.map fun f => (f.1.target, f.2)

@[simp] theorem of_target (run : String) (dir : Path) (file : String) :
    (of run dir file).target = dir.join file := rfl

variable {work : Place}

/-- The place of a staging file is among those of all of them. -/
theorem staging_mem {f : Staged × String} {files : List (Staged × String)} (h : f ∈ files) :
    f.1.staging.goal work ∈ goals work (stagings files) := by
  rw [goals, stagings, List.map_map]
  exact List.mem_map.2 ⟨f, h, rfl⟩

/-- The place of a target is among those of all of them. -/
theorem target_mem {f : Staged × String} {files : List (Staged × String)} (h : f ∈ files) :
    f.1.target.goal work ∈ goals work (targets files) := by
  rw [goals, targets, List.map_map]
  exact List.mem_map.2 ⟨f, h, rfl⟩

/-- The final names and the staging names of some files and of one more lead to different places. -/
def Apart (work : Place) (files : List (Staged × String)) (last : Staged) : Prop :=
  (goals work (targets files) ++ [last.target.goal work] ++
    (goals work (stagings files) ++ [last.staging.goal work])).Nodup

/-- The files of a batch that a run writes. -/
def ofAll (run : String) (dir : Path) (files : List (String × String)) : List (Staged × String) :=
  files.map fun f => (of run dir f.1, f.2)

end Staged

namespace Batch

open Staged

section
variable {m : Machine} {work g : Place} {run : String} {dir : Path}

/-- The first file to be moved is apart from those moved before and from the other staged ones, and
stays so under its final name. -/
theorem nodup_of_cons {α : Type} {a b c : List α} {x y : α} (h : (a ++ y :: b ++ x :: c).Nodup) :
    x ∉ a ++ c ∧ y ∉ a ++ c ∧ (a ++ [y] ++ b ++ c).Nodup := by
  grind

/-- Final names and staging names that are different are so without those of the last file, and each
of these is apart from the others. -/
theorem nodup_of_concat {α : Type} {a b : List α} {x y : α} (h : (a ++ [y] ++ (b ++ [x])).Nodup) :
    (a ++ b).Nodup ∧ (a ++ [x]).Nodup ∧ x ∉ a ∧ y ∉ a ∧ y ∉ b ∧ y ≠ x := by
  grind

/-- Removing staged files makes no other file. -/
theorem discard_meets {ss : List Staged} (hss : ∀ s ∈ ss, g ≠ s.staging.goal work)
    (hm : m.tree.Without work g) :
    (Staged.discard ss).Meets m (·.tree.Without work g) fun _ m' => m'.tree.Without work g := by
  induction ss generalizing m with
  | nil => exact .done hm
  | cons s rest ih =>
    obtain ⟨hs, hrest⟩ := List.forall_mem_cons.1 hss
    rw [Staged.discard]
    refine .remove hm (fun t ht => ?_) fun _ => ih hrest hm
    exact ih hrest (hm.remove ht hs)

/-- A failure comes after staged files were removed. -/
theorem fail_meets {α : Type} {ss : List Staged} {e : CompileError}
    {post : Except CompileError α → Machine → Prop} (hss : ∀ s ∈ ss, g ≠ s.staging.goal work)
    (hm : m.tree.Without work g) (hpost : ∀ m', m'.tree.Without work g → post (.error e) m') :
    (do Staged.discard ss; return .error e : Job (Except CompileError α)).Meets m
      (·.tree.Without work g) post :=
  .bind ((discard_meets hss hm).imp (fun _ h => h) fun _ m' h => .done (hpost m' h))

/-- Files that are staged can be read under their staging names, and those that were there before
still can. -/
theorem stage_meets {staged : List Staged} {files : List (String × String)}
    (done : List (Path × String)) (hstaged : ∀ s ∈ staged, g ≠ s.staging.goal work)
    (hg : g ∉ goals work (stagings (ofAll run dir files)))
    (hdistinct : (goals work (done ++ stagings (ofAll run dir files))).Nodup)
    (hholds : m.tree.Holds done) (hm : m.tree.Without work g) :
    (stage run dir staged files).Meets m (·.tree.Without work g) fun result m' =>
      m'.tree.Without work g ∧ ∀ staged', result = .ok staged' →
        staged' = staged ++ (ofAll run dir files).map (·.1) ∧
          m'.tree.Holds (done ++ stagings (ofAll run dir files)) := by
  induction files generalizing m staged done with
  | nil =>
    refine .done ⟨hm, fun staged' h => ?_⟩
    cases h
    simpa [ofAll, stagings] using hholds
  | cons f rest ih =>
    obtain ⟨hne, hrest⟩ : g ≠ (of run dir f.1).staging.goal work ∧
        g ∉ goals work (stagings (ofAll run dir rest)) := not_or.1 fun h => hg (List.mem_cons.2 h)
    have hstaged' : ∀ s ∈ staged ++ [of run dir f.1], g ≠ s.staging.goal work := by
      simpa [or_imp, forall_and] using ⟨hstaged, hne⟩
    have hnew : (of run dir f.1).staging.goal work ∉ goals work done := by
      rw [goals, List.map_append] at hdistinct
      exact fun h => (List.nodup_middle.1 hdistinct).notMem (List.mem_append_left _ h)
    rw [stage]
    refine .write (fun m' h => h.without hm hne) (fun t ht => ?_) fun fault m' h => ?_
    · refine .imp (ih _ hstaged' hrest (by simpa [ofAll, stagings] using hdistinct)
        (hholds.write hm.work hnew ht) (hm.write ht hne)) (fun _ h => h) ?_
      rintro result m' ⟨hm', hresult⟩
      exact ⟨hm', fun staged' h => by simpa [ofAll, stagings] using hresult staged' h⟩
    · exact fail_meets hstaged' (h.without hm hne) fun _ h => ⟨h, nofun⟩

/-- Making the directory of a batch changes no file. -/
theorem prepare_meets {files : List (String × String)}
    (hg : g ∉ goals work (stagings (ofAll run dir files)))
    (hdistinct : (goals work (stagings (ofAll run dir files))).Nodup) (hm : m.tree.Without work g) :
    (prepare run dir files).Meets m (·.tree.Without work g) fun result m' =>
      m'.tree.Without work g ∧ ∀ staged, result = .ok staged →
        staged = (ofAll run dir files).map (·.1) ∧
          m'.tree.Holds (stagings (ofAll run dir files)) := by
  have hmade {m' : Machine} (h : m.tree.Changes ∅ m'.tree) : m'.tree.Without work g :=
    hm.of_changes h (Set.notMem_empty g)
  rw [prepare, start]
  refine .bind (.createDirs (fun m' hm' => hmade hm'.changes_createDirs) fun a m' hm' => ?_)
  cases a with
  | ok => exact .done (stage_meets [] nofun hg hdistinct nofun (hmade hm'))
  | error fault => exact .done (.done ⟨hmade hm', nofun⟩)

/-- Staged files that are moved can be read under their final names, and those that were there
before still can. -/
theorem move_meets {published : List Path} {files : List (Staged × String)}
    (done : List (Path × String)) (hs : g ∉ goals work (stagings files))
    (ht : g ∉ goals work (targets files))
    (hdistinct : (goals work (done ++ targets files ++ stagings files)).Nodup)
    (hholds : m.tree.Holds (done ++ stagings files)) (hm : m.tree.Without work g) :
    (move published (files.map (·.1))).Meets m (·.tree.Without work g) fun result m' =>
      m'.tree.Without work g ∧
        ∀ paths, result = .ok paths → m'.tree.Holds (done ++ targets files) := by
  induction files generalizing m published done with
  | nil =>
    refine .done ⟨hm, fun _ _ => ?_⟩
    simpa [stagings, targets] using hholds
  | cons f rest ih =>
    obtain ⟨hsne, hsrest⟩ : g ≠ f.1.staging.goal work ∧ g ∉ goals work (stagings rest) :=
      not_or.1 fun h => hs (List.mem_cons.2 h)
    obtain ⟨htne, htrest⟩ : g ≠ f.1.target.goal work ∧ g ∉ goals work (targets rest) :=
      not_or.1 fun h => ht (List.mem_cons.2 h)
    obtain ⟨hfrom, hto, hrest⟩ : f.1.staging.goal work ∉ goals work (done ++ stagings rest) ∧
        f.1.target.goal work ∉ goals work (done ++ stagings rest) ∧
        (goals work (done ++ [(f.1.target, f.2)] ++ targets rest ++ stagings rest)).Nodup := by
      simp only [goals, List.map_append] at hdistinct ⊢
      exact nodup_of_cons hdistinct
    rw [List.map_cons, move]
    refine .rename hm (fun t hrename => ?_) fun fault => ?_
    · have hholds' := Holds.rename hholds hm.work hfrom hto hrename
      rw [List.append_cons] at hholds'
      refine .imp (ih _ hsrest htrest hrest hholds' (hm.rename hrename hsne htne)) (fun _ h => h) ?_
      rintro result m' ⟨hm', hresult⟩
      exact ⟨hm', fun paths h => by simpa [targets] using hresult paths h⟩
    · refine fail_meets (fun s hmem => ?_) hm fun _ h => ⟨h, nofun⟩
      obtain ⟨f', hf', rfl⟩ := List.mem_map.1 (show s ∈ (f :: rest).map (·.1) from hmem)
      exact fun h => hs (h ▸ staging_mem hf')

/-- What there is when a batch was published, given its files and the last one: if it failed, the
last file is not there; else all files are. -/
def Published (work : Place) (files : List (Staged × String)) (last : Staged × String)
    (result : Except CompileError (List Path)) (m : Machine) : Prop :=
  match result with
  | .error _ => m.tree.Without work (last.1.target.goal work)
  | .ok _ => m.tree.Holds (targets (files ++ [last]))

/-- The last file is not there until all files are. -/
theorem publish_meets {files : List (Staged × String)} {file text : String}
    (hapart : Apart work files (of run dir file))
    (hholds : m.tree.Holds (stagings files))
    (hm : m.tree.Without work ((dir.join file).goal work)) :
    (publish run dir (files.map (·.1)) file text).Meets m
      (·.tree.Without work ((dir.join file).goal work))
      (Published work files (of run dir file, text)) := by
  obtain ⟨hmove, hstage, hnew, ht, hs, hne⟩ := nodup_of_concat hapart
  rw [publish]
  refine .bind (.imp (move_meets [] hs ht (by simpa using hmove) hholds hm) (fun _ h => h) ?_)
  rintro (e | published) m₁ ⟨hm₁, hmoved⟩
  · exact .done hm₁
  refine .bind (.imp (stage_meets (targets files) nofun (by simpa [ofAll, stagings] using hne)
    (by simpa [ofAll, stagings] using hstage) (hmoved published rfl) hm₁) (fun _ h => h) ?_)
  rintro (e | last) m₂ ⟨hm₂, hstaged⟩
  · exact .done hm₂
  obtain ⟨rfl, hholds₂⟩ := hstaged last rfl
  -- The last file is moved by the one request after which it is there.
  refine .rename hm₂ (fun t hrename => .done ?_) fun fault => ?_
  · have hlast : m₂.tree.Holds (targets files ++ [((of run dir file).staging, text)]) := hholds₂
    simpa [Published, targets] using
      hlast.rename hm₂.work (by simpa using hnew) (by simpa using ht) hrename
  · exact fail_meets (by simpa [ofAll] using hne) hm₂ fun _ h => h

end

end Batch

end Wiring
