import Wiring.Proofs.Artifact.Emit

/-!
# What a failure leaves

Writing artifacts may fail at any request, with part of a file or of the directory there. As long as
removing files works, nothing new is left under a staging name: each file that was staged is moved
or removed (`Batch.discard_ensures`, `Batch.move_ensures`). The final names change one after the
other, so the first artifacts are the new ones and the others are as they were, and the manifest,
which is moved last, is gone (`Plans.emit_failed`).

There is one exception. A manifest is taken for missing if the way to it is not there. Where this
way leads back up, making the output directory may open it again (`Plans.exists_manifest_left`).
-/

namespace Wiring

open Disk Tree

namespace Batch

open Staged

/-- A file that can be removed stands at a path, or nothing that did not stand there in another
tree. -/
def Clearable (t₀ t : Tree) (p : Path) : Prop :=
  (∃ text, t.read p = .ok text) ∨ NothingNew t₀ t (p.goal t.work)

section
variable {t₀ t t' t'' : Tree} {m m' : Machine} {run : String} {dir p : Path} {places : Set Place}
  {work : Place}

/-- A staging file can still be cleared away after changes in other places. -/
theorem Clearable.of_changes (h : Clearable t₀ t p) (hchanges : t.Changes places t')
    (hp : p.goal t.work ∉ places) : Clearable t₀ t' p := by
  rw [Clearable, hchanges.work]
  exact h.imp (fun ⟨text, hread⟩ => ⟨text, hchanges.read hp hread⟩) (hchanges.nothingNew hp)

/-- What is missing is not new. -/
theorem Clearable.of_missing (h : Clearable t₀ t p) (hmissing : t.remove p = .error .missing) :
    NothingNew t₀ t (p.goal t.work) := by
  rcases h with ⟨text, hread⟩ | hnew
  · rw [remove_of_read hread] at hmissing
    cases hmissing
  · exact hnew

/-- A file that is written in part can be removed. -/
theorem Clearable.of_interrupted {text : String} (h : Interrupted m (.write p text) m')
    (hnew : NothingNew t₀ m.tree (p.goal m.tree.work)) : Clearable t₀ m'.tree p := by
  cases h with
  | untouched => exact .inr hnew
  | written hwrite => exact .inl ⟨_, read_of_write hwrite⟩

/-- Where files are staged. -/
abbrev stagingGoals (work : Place) (files : List (Staged × String)) : List Place :=
  goals work (stagings files)

@[simp] theorem stagingGoals_nil : stagingGoals work [] = [] := rfl

@[simp] theorem stagingGoals_cons (f : Staged × String) (files : List (Staged × String)) :
    stagingGoals work (f :: files) = f.1.staging.goal work :: stagingGoals work files := rfl

@[simp] theorem stagingGoals_append (files files' : List (Staged × String)) :
    stagingGoals work (files ++ files') = stagingGoals work files ++ stagingGoals work files' := by
  simp [stagingGoals, stagings]

/-- The staging places of some files are among those of these files and more. -/
theorem mem_stagingGoals_left {g : Place} {files : List (Staged × String)}
    (files' : List (Staged × String)) (h : g ∈ stagingGoals work files) :
    g ∈ stagingGoals work (files ++ files') := by
  rw [stagingGoals_append]
  exact List.mem_append_left _ h

/-- Staging files that are there can be cleared away. -/
theorem clearable_of_holds {files : List (Staged × String)} (h : t.Holds (stagings files)) :
    ∀ f ∈ files, Clearable t₀ t f.1.staging :=
  fun f hf => .inl ⟨f.2, h (f.1.staging, f.2) (List.mem_map_of_mem hf)⟩

/-! ## Staged files -/

/-- Removing staged files changes nothing else and leaves nothing new under their names. -/
theorem discard_ensures {files : List (Staged × String)} (hw : m.tree.work = work)
    (hdistinct : (stagingGoals work files).Nodup)
    (hfiles : ∀ f ∈ files, Clearable t₀ m.tree f.1.staging) :
    (Staged.discard (files.map (·.1))).Ensures m fun _ m' =>
      m.tree.Changes {g | g ∈ stagingGoals work files} m'.tree ∧
        ∀ g ∈ stagingGoals work files, NothingNew t₀ m'.tree g := by
  induction files generalizing m with
  | nil => exact .done ⟨.refl _, List.forall_mem_nil _⟩
  | cons f rest ih =>
    obtain ⟨hf, hrest⟩ := List.forall_mem_cons.1 hfiles
    obtain ⟨hnotMem, hdistinct⟩ : f.1.staging.goal work ∉ stagingGoals work rest ∧
        (stagingGoals work rest).Nodup := List.nodup_cons.1 hdistinct
    have hgoOn {m' : Machine} (hchanges : m.tree.Changes {f.1.staging.goal work} m'.tree)
        (hnew : NothingNew t₀ m'.tree (f.1.staging.goal work)) :
        (Staged.discard (rest.map (·.1))).Ensures m' fun _ m'' =>
          m.tree.Changes {g | g ∈ stagingGoals work (f :: rest)} m''.tree ∧
            ∀ g ∈ stagingGoals work (f :: rest), NothingNew t₀ m''.tree g := by
      have hclearable : ∀ f' ∈ rest, Clearable t₀ m'.tree f'.1.staging := by
        intro f' hf'
        have hne : f'.1.staging.goal work ≠ f.1.staging.goal work := fun heq =>
          hnotMem (heq ▸ staging_mem hf')
        exact (hrest f' hf').of_changes hchanges (hw ▸ hne)
      refine .imp (ih (hchanges.work.trans hw) hdistinct hclearable) ?_
      rintro _ m'' ⟨hchanges', hnew'⟩
      refine ⟨?_, ?_⟩
      · exact (hchanges.mono (by simp)).trans (hchanges'.mono fun _ hg => .tail _ hg)
      · exact List.forall_mem_cons.2 ⟨hchanges'.nothingNew hnotMem hnew, hnew'⟩
    rw [List.map_cons, Staged.discard]
    subst hw
    exact .remove (fun t ht => hgoOn (.remove ht) (.of_at? (at?_of_remove ht)))
      fun hmissing => hgoOn (.refl _) (hf.of_missing hmissing)

/-- A failure comes after staged files were removed. -/
theorem fail_ensures {α : Type} {files : List (Staged × String)} {e : CompileError}
    {post : Except CompileError α → Machine → Prop} (hw : m.tree.work = work)
    (hdistinct : (stagingGoals work files).Nodup)
    (hfiles : ∀ f ∈ files, Clearable t₀ m.tree f.1.staging)
    (hpost : ∀ m', m.tree.Changes {g | g ∈ stagingGoals work files} m'.tree →
      (∀ g ∈ stagingGoals work files, NothingNew t₀ m'.tree g) → post (.error e) m') :
    (do Staged.discard (files.map (·.1)); return .error e : Job (Except CompileError α)).Ensures m
      post :=
  .bind ((discard_ensures hw hdistinct hfiles).imp fun _ m' h => .done (hpost m' h.1 h.2))

/-- What there is when files were staged: all of them; or nothing new after a failure. -/
def Prepared (work : Place) (t₀ : Tree) (files : List (Staged × String))
    (result : Except CompileError (List Staged)) (t' : Tree) : Prop :=
  match result with
  | .ok staged => staged = files.map (·.1) ∧ t'.Holds (stagings files)
  | .error _ => ∀ g ∈ stagingGoals work files, NothingNew t₀ t' g

/-- A place among others that is different from all of them. -/
theorem notMem_of_nodup {α : Type} {a b : List α} {x : α} (h : (a ++ x :: b).Nodup) :
    x ∉ a ∧ x ∉ b ∧ (a ++ [x]).Nodup ∧ ∀ y ∈ b, y ∉ a ++ [x] := by
  grind

/-- Files are staged behind others, or all of them are removed. -/
theorem stage_ensures (before : List (Staged × String)) {files : List (String × String)}
    (hw : m.tree.work = work)
    (hdistinct : (stagingGoals work (before ++ ofAll run dir files)).Nodup)
    (hholds : m.tree.Holds (stagings before))
    (hnew : ∀ g ∈ stagingGoals work (ofAll run dir files), NothingNew t₀ m.tree g) :
    (stage run dir (before.map (·.1)) files).Ensures m fun result m' =>
      m.tree.Changes {g | g ∈ stagingGoals work (before ++ ofAll run dir files)} m'.tree ∧
        Prepared work t₀ (before ++ ofAll run dir files) result m'.tree := by
  induction files generalizing m before with
  | nil =>
    refine .done ⟨.refl _, ?_⟩
    simpa [Prepared, ofAll] using hholds
  | cons f rest ih =>
    have hall : ofAll run dir (f :: rest) = (of run dir f.1, f.2) :: ofAll run dir rest := rfl
    rw [hall] at hdistinct hnew ⊢
    rw [stage]
    generalize of run dir f.1 = s at hdistinct hnew ⊢
    obtain ⟨hs, hrest⟩ := List.forall_mem_cons.1 hnew
    obtain ⟨hsBefore, hsRest, hnodup, hapart⟩ := notMem_of_nodup <| by
      simpa only [stagingGoals_append, stagingGoals_cons] using hdistinct
    have hplaces : stagingGoals work (before ++ [(s, f.2)]) =
        stagingGoals work before ++ [s.staging.goal work] := by simp
    have hstaged : (before ++ [(s, f.2)]).map (·.1) = before.map (·.1) ++ [s] := by simp
    rw [List.append_cons before (s, f.2)] at hdistinct ⊢
    have hsub : {s.staging.goal work} ⊆
        {g | g ∈ stagingGoals work (before ++ [(s, f.2)] ++ ofAll run dir rest)} := by simp
    refine .write (fun t ht => ?_) fun fault m' hm' => ?_
    · have hchanges : m.tree.Changes {s.staging.goal work} t := hw ▸ .write ht
      have hholds' : t.Holds (stagings (before ++ [(s, f.2)])) := by
        simpa [stagings] using hholds.write hw hsBefore ht
      have hrest' : ∀ g ∈ stagingGoals work (ofAll run dir rest), NothingNew t₀ t g := fun g hg =>
        hchanges.nothingNew (fun heq => hsRest (Set.mem_singleton_iff.1 heq ▸ hg)) (hrest g hg)
      have hgoOn := ih _ (m := { m with tree := t })
        (hchanges.work.trans hw) hdistinct hholds' hrest'
      rw [hstaged] at hgoOn
      refine .imp hgoOn ?_
      rintro result m' ⟨hchanges', hprepared⟩
      exact ⟨(hchanges.mono hsub).trans hchanges', hprepared⟩
    · -- the file that could not be written is removed with those before it
      have hchanges : m.tree.Changes {s.staging.goal work} m'.tree := hw ▸ hm'.changes_write
      have hbefore : m'.tree.Holds (stagings before) :=
        hchanges.holds (fun g hg heq => hsBefore (Set.mem_singleton_iff.1 heq ▸ hw ▸ hg)) hholds
      have hclearable : ∀ x ∈ before ++ [(s, f.2)], Clearable t₀ m'.tree x.1.staging :=
        List.forall_mem_append.2 ⟨clearable_of_holds hbefore,
          List.forall_mem_singleton.2 (.of_interrupted hm' (hw ▸ hs))⟩
      rw [← hstaged]
      refine fail_ensures (hchanges.work.trans hw) (hplaces ▸ hnodup) hclearable
        fun m'' hchanges' hnew' => ⟨?_, ?_⟩
      · exact (hchanges.mono hsub).trans (hchanges'.mono fun g hg => mem_stagingGoals_left _ hg)
      · rw [Prepared, stagingGoals_append]
        refine List.forall_mem_append.2 ⟨hnew', fun g hg => ?_⟩
        have hg' : g ∉ stagingGoals work (before ++ [(s, f.2)]) := hplaces ▸ hapart g hg
        have hne : g ≠ s.staging.goal work := fun heq => hsRest (heq ▸ hg)
        exact hchanges'.nothingNew hg' (hchanges.nothingNew hne (hrest g hg))

/-! ## Files that are moved -/

/-- Where files are staged or in place. -/
abbrev allGoals (work : Place) (files : List (Staged × String)) : List Place :=
  goals work (targets files) ++ stagingGoals work files

/-- The places of two lists of files are those of the one and those of the other. -/
theorem mem_allGoals_append {g : Place} {files files' : List (Staged × String)} :
    g ∈ allGoals work (files ++ files') ↔ g ∈ allGoals work files ∨ g ∈ allGoals work files' := by
  simp only [targets, List.map_append, stagingGoals_append, List.mem_append]
  tauto

/-- Where no two places of two lists of files are the same, none is in both lists. -/
theorem nodup_allGoals_append {files files' : List (Staged × String)}
    (h : (allGoals work (files ++ files')).Nodup) :
    (allGoals work files).Nodup ∧ (allGoals work files').Nodup ∧
      ∀ g ∈ allGoals work files, g ∉ allGoals work files' := by
  simp only [allGoals, targets, List.map_append, stagingGoals_append] at h ⊢
  grind

/-- Where no two places are the same, no target is a staging place. -/
theorem target_notMem {f : Staged × String} {files : List (Staged × String)}
    (h : (allGoals work files).Nodup) (hf : f ∈ files) :
    f.1.target.goal work ∉ stagingGoals work files :=
  fun hmem => (List.nodup_append.1 h).2.2 _ (target_mem hf) _ hmem rfl

/-- How moving files of a batch ends: nothing new is left where they were staged, the first ones are
in place, and those that are kept from it, which are none if nothing failed, have left their final
names as they were. -/
structure Ends (work : Place) (t₀ t : Tree) (files : List (Staged × String)) (isDone : Bool)
    (t' : Tree) : Prop where
  changes : t.Changes {g | g ∈ allGoals work files} t'
  unstaged : ∀ g ∈ stagingGoals work files, NothingNew t₀ t' g
  replaced : ∃ moved kept, files = moved ++ kept ∧ t'.Holds (targets moved) ∧
    (∀ f ∈ kept, SameFile t t' (f.1.target.goal work)) ∧ (isDone = true ↔ kept = [])

namespace Ends

variable {files files' : List (Staged × String)} {isDone : Bool}

/-- Files are moved after others. -/
theorem append (hw : t.work = work) (h : Ends work t₀ t files true t')
    (h' : Ends work t₀ t' files' isDone t'')
    (hapart : ∀ g ∈ allGoals work files, g ∉ allGoals work files') :
    Ends work t₀ t (files ++ files') isDone t'' := by
  obtain ⟨moved, kept, rfl, hmoved, -, hkept⟩ := h.replaced
  obtain ⟨moved', kept', rfl, hmoved', hkept', hdone⟩ := h'.replaced
  obtain rfl : kept = [] := hkept.1 rfl
  rw [List.append_nil] at h hapart ⊢
  constructor
  · exact (h.changes.mono fun g hg => mem_allGoals_append.2 (.inl hg)).trans
      (h'.changes.mono fun g hg => mem_allGoals_append.2 (.inr hg))
  · rw [stagingGoals_append]
    refine List.forall_mem_append.2 ⟨fun g hg => ?_, h'.unstaged⟩
    exact h'.changes.nothingNew (hapart g (List.mem_append_right _ hg)) (h.unstaged g hg)
  · refine ⟨moved ++ moved', kept', (List.append_assoc ..).symm, ?_, fun f hf => ?_, hdone⟩
    · rw [targets, List.map_append]
      refine List.forall_mem_append.2 ⟨?_, hmoved'⟩
      refine h'.changes.holds (fun g hg => ?_) hmoved
      rw [h.changes.work, hw] at hg
      exact hapart g (List.mem_append_left _ hg)
    · have hf' : f.1.target.goal work ∈ allGoals work (moved' ++ kept') :=
        List.mem_append_left _ (target_mem (List.mem_append_right _ hf))
      exact (h.changes.sameFile fun hg => hapart _ hg hf').trans (hkept' f hf)

/-- After a failure no more files are moved. -/
theorem append_of_failed (h : Ends work t₀ t files false t')
    (hnew : ∀ g ∈ stagingGoals work files', NothingNew t₀ t g)
    (hapart : ∀ g ∈ allGoals work files, g ∉ allGoals work files') :
    Ends work t₀ t (files ++ files') false t' := by
  have hnotMem {g : Place} (hg : g ∈ allGoals work files') : g ∉ allGoals work files :=
    fun h => hapart g h hg
  obtain ⟨moved, kept, hfiles, hmoved, hkept, hdone⟩ := h.replaced
  constructor
  · exact h.changes.mono fun g hg => mem_allGoals_append.2 (.inl hg)
  · rw [stagingGoals_append]
    refine List.forall_mem_append.2 ⟨h.unstaged, fun g hg => ?_⟩
    exact h.changes.nothingNew (hnotMem (List.mem_append_right _ hg)) (hnew g hg)
  · refine ⟨moved, kept ++ files', by rw [hfiles, List.append_assoc], hmoved,
      List.forall_mem_append.2 ⟨hkept, fun f hf => ?_⟩, ?_⟩
    · exact h.changes.sameFile (hnotMem (List.mem_append_left _ (target_mem hf)))
    · have hne : kept ≠ [] := fun hnil => by cases hdone.2 hnil
      simp [hne]

/-- Files that are removed where they were staged are kept from their places. -/
theorem of_discarded (hfiles : files ≠ []) (hdistinct : (allGoals work files).Nodup)
    (hchanges : t.Changes {g | g ∈ stagingGoals work files} t')
    (hnew : ∀ g ∈ stagingGoals work files, NothingNew t₀ t' g) : Ends work t₀ t files false t' := by
  refine ⟨hchanges.mono fun g hg => List.mem_append_right _ hg, hnew, [], files, rfl,
    List.forall_mem_nil _, ?_, ?_⟩
  · exact fun f hf => hchanges.sameFile (target_notMem hdistinct hf)
  · simpa using hfiles

/-- A file that is moved is in place. -/
theorem of_rename {f : Staged × String} (hw : t.work = work) (hdistinct : (allGoals work [f]).Nodup)
    (hread : t.read f.1.staging = .ok f.2) (h : t.rename f.1.staging f.1.target = .ok t') :
    Ends work t₀ t [f] true t' := by
  have hne : f.1.staging.goal work ≠ f.1.target.goal work := fun heq =>
    target_notMem hdistinct (.head _) (List.mem_singleton.2 heq.symm)
  subst hw
  constructor
  · refine (Changes.rename h).mono ?_
    rintro g (rfl | rfl)
    · exact List.mem_append_right _ (.head _)
    · exact .head _
  · exact List.forall_mem_singleton.2 (.of_at? (at?_source_of_rename h hne))
  · exact ⟨[f], [], rfl, List.forall_mem_singleton.2 (read_of_rename h hread),
      List.forall_mem_nil _, by simp⟩

/-- Files are staged before they are moved. -/
theorem of_staged (hdistinct : (allGoals work files).Nodup)
    (hchanges : t.Changes {g | g ∈ stagingGoals work files} t')
    (h : Ends work t₀ t' files isDone t'') :
    Ends work t₀ t files isDone t'' := by
  obtain ⟨moved, kept, rfl, hmoved, hkept, hdone⟩ := h.replaced
  refine ⟨(hchanges.mono fun g hg => List.mem_append_right _ hg).trans h.changes, h.unstaged, moved,
    kept, rfl, hmoved, fun f hf => ?_, hdone⟩
  have hf' := target_notMem hdistinct (List.mem_append_right _ hf)
  exact (hchanges.sameFile hf').trans (hkept f hf)

end Ends

/-- Of staged files, the first ones are moved and the others are removed, unless all are moved. -/
theorem move_ensures (t₀ : Tree) {published : List Path} {files : List (Staged × String)}
    (hw : m.tree.work = work) (hdistinct : (allGoals work files).Nodup)
    (hholds : m.tree.Holds (stagings files)) :
    (move published (files.map (·.1))).Ensures m fun result m' =>
      Ends work t₀ m.tree files result.isOk m'.tree := by
  induction files generalizing m published with
  | nil =>
    refine .done ⟨.refl _, List.forall_mem_nil _, [], [], rfl, List.forall_mem_nil _,
      List.forall_mem_nil _, ?_⟩
    simp [Except.isOk, Except.toBool]
  | cons f rest ih =>
    obtain ⟨hf, hrest⟩ := List.forall_mem_cons.1 hholds
    obtain ⟨hfirst, hothers, hapart⟩ :=
      nodup_allGoals_append (show (allGoals work ([f] ++ rest)).Nodup from hdistinct)
    rw [List.map_cons, move]
    refine .rename (fun t hrename => ?_) fun fault => ?_
    · have hmoved : Ends work t₀ m.tree [f] true t := .of_rename hw hfirst hf hrename
      have hholds' : t.Holds (stagings rest) := by
        refine hmoved.changes.holds (fun g hg h => ?_) hrest
        rw [hw] at hg
        exact hapart g h (List.mem_append_right _ hg)
      refine .imp (ih (m := { m with tree := t }) (hmoved.changes.work.trans hw) hothers hholds') ?_
      exact fun result m' hends => hmoved.append hw hends hapart
    · have hclearable : ∀ x ∈ f :: rest, Clearable t₀ m.tree x.1.staging :=
        clearable_of_holds hholds
      refine fail_ensures hw hdistinct.of_append_right hclearable fun m' hchanges hnew => ?_
      exact .of_discarded (List.cons_ne_nil f rest) hdistinct hchanges hnew

/-- The last file is staged and moved when the others are in place. -/
theorem publish_ensures {files : List (Staged × String)} {file text : String}
    (hw : m.tree.work = work)
    (hdistinct : (allGoals work (files ++ [(of run dir file, text)])).Nodup)
    (hholds : m.tree.Holds (stagings files))
    (hnew : NothingNew t₀ m.tree ((of run dir file).staging.goal work)) :
    (publish run dir (files.map (·.1)) file text).Ensures m fun result m' =>
      Ends work t₀ m.tree (files ++ [(of run dir file, text)]) result.isOk m'.tree := by
  obtain ⟨hfiles, hlast, hapart⟩ := nodup_allGoals_append hdistinct
  have hnew' : ∀ g ∈ stagingGoals work [(of run dir file, text)], NothingNew t₀ m.tree g :=
    List.forall_mem_singleton.2 hnew
  rw [publish]
  refine .bind (.imp (move_ensures t₀ hw hfiles hholds) ?_)
  rintro (e | published) m₁ hmoved
  · exact .done (hmoved.append_of_failed hnew' hapart)
  have hw₁ : m₁.tree.work = work := hmoved.changes.work.trans hw
  have hnew₁ : ∀ g ∈ stagingGoals work [(of run dir file, text)], NothingNew t₀ m₁.tree g :=
    fun g hg =>
      hmoved.changes.nothingNew (fun h => hapart g h (List.mem_append_right _ hg)) (hnew' g hg)
  have hstage : (stage run dir [] [(file, text)]).Ensures m₁ fun result m' =>
      m₁.tree.Changes {g | g ∈ stagingGoals work [(of run dir file, text)]} m'.tree ∧
        Prepared work t₀ [(of run dir file, text)] result m'.tree :=
    stage_ensures [] hw₁ (List.nodup_singleton _) (List.forall_mem_nil _) hnew₁
  refine .bind (.imp hstage ?_)
  rintro (e | staged) m₂ ⟨hchanges, hprepared⟩
  · have hkept : Ends work t₀ m₁.tree [(of run dir file, text)] false m₂.tree :=
      .of_discarded (List.cons_ne_nil _ []) hlast hchanges hprepared
    exact .done (hmoved.append hw hkept hapart)
  · obtain ⟨rfl, hholds₂⟩ := hprepared
    refine .imp (move_ensures t₀ (hchanges.work.trans hw₁) hlast hholds₂) ?_
    exact fun result m₃ hends => hmoved.append hw (.of_staged hlast hchanges hends) hapart

/-- Making the directory of a batch changes no file. -/
theorem prepare_ensures {files : List (String × String)} (hw : m.tree.work = work)
    (hdistinct : (stagingGoals work (ofAll run dir files)).Nodup) :
    (prepare run dir files).Ensures m fun result m' =>
      m.tree.Changes {g | g ∈ stagingGoals work (ofAll run dir files)} m'.tree ∧
        Prepared work m.tree (ofAll run dir files) result m'.tree := by
  rw [prepare, start]
  refine .bind (.createDirs fun a m' hm' => ?_)
  have hchanges : m.tree.Changes {g | g ∈ stagingGoals work (ofAll run dir files)} m'.tree :=
    hm'.mono (Set.empty_subset _)
  have hnew : ∀ g ∈ stagingGoals work (ofAll run dir files), NothingNew m.tree m'.tree g :=
    fun g _ => hm'.nothingNew (Set.notMem_empty g) fun _ h => h
  cases a with
  | error fault => exact .done (.done ⟨hchanges, hnew⟩)
  | ok =>
    have hstaged := stage_ensures [] (hchanges.work.trans hw) hdistinct (List.forall_mem_nil _) hnew
    refine .done (.imp hstaged ?_)
    exact fun result m'' h => ⟨hchanges.trans h.1, h.2⟩

/-- A batch from its directory to its last file. -/
theorem prepare_publish_ensures {α : Type} {files : List (String × String)} {file text : String}
    {a : α} (hw : m.tree.work = work)
    (hdistinct : (allGoals work (ofAll run dir files ++ [(of run dir file, text)])).Nodup) :
    (do
      match ← prepare run dir files with
      | .error e => return .error e
      | .ok staged =>
        match ← publish run dir staged file text with
        | .error e => return .error e
        | .ok _ => return .ok a : Job (Except CompileError α)).Ensures m fun result m' =>
      Ends work m.tree m.tree (ofAll run dir files ++ [(of run dir file, text)]) result.isOk
        m'.tree := by
  obtain ⟨hfiles, -, hapart⟩ := nodup_allGoals_append hdistinct
  have hnotMem : (of run dir file).staging.goal work ∉ stagingGoals work (ofAll run dir files) :=
    fun h => hapart _ (List.mem_append_right _ h) (List.mem_append_right _ (.head _))
  refine .bind (.imp (prepare_ensures hw hfiles.of_append_right) ?_)
  rintro result m₁ ⟨hchanges, hprepared⟩
  have hnew : NothingNew m.tree m₁.tree ((of run dir file).staging.goal work) :=
    hchanges.nothingNew hnotMem fun _ h => h
  have hstaged : m.tree.Changes
      {g | g ∈ stagingGoals work (ofAll run dir files ++ [(of run dir file, text)])} m₁.tree :=
    hchanges.mono fun g hg => mem_stagingGoals_left _ hg
  cases result with
  | error e =>
    refine .done (.of_discarded (by simp) hdistinct hstaged ?_)
    rw [stagingGoals_append]
    exact List.forall_mem_append.2 ⟨hprepared, List.forall_mem_singleton.2 hnew⟩
  | ok staged =>
    obtain ⟨rfl, hholds⟩ := hprepared
    refine .bind (.imp (publish_ensures (hchanges.work.trans hw) hdistinct hholds hnew) ?_)
    rintro (e | paths) m₂ hends
    · exact .done (.of_staged hdistinct hstaged hends)
    · exact .done (.of_staged hdistinct hstaged hends)

end

end Batch

namespace Plans

open Batch Staged

variable {c : Config} {run : String} {isPretty : Bool} {m m' : Machine} {work : Place}

/-- The artifact of a kind, as a run writes it. -/
def artifact (p : Plans) (run : String) (isPretty : Bool) (c : Config) (kind : ArtifactKind) :
    Staged × String :=
  (of run c.outputDir (kind.settings c).file, p.artifactText isPretty c kind)

/-- The manifest, as a run writes it. -/
def manifestFile (p : Plans) (run : String) (isPretty : Bool) (c : Config) : Staged × String :=
  (of run c.outputDir c.output.manifest, (p.manifest isPretty c).text isPretty)

/-- The files that a run writes, in the order in which they are moved. -/
def batch (p : Plans) (run : String) (isPretty : Bool) (c : Config) : List (Staged × String) :=
  ArtifactKind.all.map (p.artifact run isPretty c) ++ [p.manifestFile run isPretty c]

/-- The staging places of a batch, by the files of its artifacts. -/
theorem stagingGoals_batch (p : Plans) : stagingGoals work (p.batch run isPretty c) =
    c.artifactFiles.map fun f => (of run c.outputDir f).staging.goal work := by
  simp [batch, artifact, manifestFile, Config.artifactFiles, ArtifactKind.all,
    ArtifactKind.settings]

/-- The targets of a batch, by the files of its artifacts. -/
theorem goals_targets_batch (p : Plans) : goals work (targets (p.batch run isPretty c)) =
    c.artifactFiles.map fun f => (c.outputDir.join f).goal work := by
  simp [batch, artifact, manifestFile, targets, Config.artifactFiles, ArtifactKind.all,
    ArtifactKind.settings]

/-- The places of a batch are different where its paths are kept separate. -/
theorem nodup_allGoals_batch (p : Plans) (isPretty : Bool) (hc : c.Separates work run) :
    (allGoals work (p.batch run isPretty c)).Nodup := by
  rwa [allGoals, goals_targets_batch, stagingGoals_batch]

/-- The manifest is the last of the files that are kept from their places. -/
theorem of_batch_eq_append {p : Plans} {moved kept : List (Staged × String)}
    (h : p.batch run isPretty c = moved ++ kept) (hne : kept ≠ []) :
    ∃ replaced kinds, ArtifactKind.all = replaced ++ kinds ∧
      moved = replaced.map (p.artifact run isPretty c) ∧
      kept = kinds.map (p.artifact run isPretty c) ++ [p.manifestFile run isPretty c] := by
  obtain rfl | ⟨kept, last, rfl⟩ := List.eq_nil_or_concat kept
  · exact absurd rfl hne
  · rw [List.concat_eq_append] at h ⊢
    rw [batch, ← List.append_assoc] at h
    obtain ⟨hall, hlast⟩ := List.append_inj' h rfl
    obtain ⟨replaced, kinds, hkinds, rfl, rfl⟩ := List.map_eq_append_iff.1 hall
    exact ⟨replaced, kinds, hkinds, rfl, by rw [hlast]⟩

/-- The manifest is removed, unless it is missing, and then the batch is written. -/
theorem emit_ensures (p : Plans) (hc : c.Separates m.tree.work run) :
    (p.emit run isPretty c).Ensures m fun result m' =>
      ∃ t, Ends m.tree.work t t (p.batch run isPretty c) result.isOk m'.tree ∧
        (m.tree.remove c.manifestPath = .ok t ∨
          m.tree.remove c.manifestPath = .error .missing ∧ m.tree = t) := by
  have hbatch : p.batch run isPretty c = ofAll run c.outputDir (ArtifactKind.all.map fun kind =>
      ((kind.settings c).file, p.artifactText isPretty c kind)) ++
        [(of run c.outputDir c.output.manifest, (p.manifest isPretty c).text isPretty)] := by
    rw [ofAll, List.map_map]
    rfl
  have hdistinct := p.nodup_allGoals_batch isPretty hc
  rw [hbatch] at hdistinct ⊢
  rw [emit, Config.invalidate]
  refine .bind (.remove (fun t ht => .done ?_) fun hmissing => .done ?_)
  · exact .imp (prepare_publish_ensures (Changes.remove ht).work hdistinct)
      fun _ _ hends => ⟨t, hends, .inl ht⟩
  · exact .imp (prepare_publish_ensures rfl hdistinct)
      fun _ _ hends => ⟨_, hends, .inr ⟨hmissing, rfl⟩⟩

/-- If writing artifacts fails while what is to be removed is gone, nothing new is left under a
staging name; there is no manifest, unless one was taken for missing that was there, which cannot be
where its path never leads up; and the first artifacts are the new ones, while the others are as
they were. -/
theorem emit_failed {events : List Exchange} {e : CompileError} (p : Plans)
    (hc : c.Separates m.tree.work run)
    (hr : Runs (p.emit run isPretty c) m events m' (some (.error e)))
    (hremoves : ∀ x ∈ events, Exchange.removes x = true) :
    (∀ f ∈ c.artifactFiles,
        NothingNew m.tree m'.tree ((of run c.outputDir f).staging.goal m.tree.work)) ∧
      (c.Unpublished m' ↔ (m.tree.remove c.manifestPath = .error .missing → c.Unpublished m)) ∧
      (m.tree.Rooted → .parent ∉ c.manifestPath.trail → c.Unpublished m') ∧
      ∃ replaced kept, ArtifactKind.all = replaced ++ kept ∧
        (∀ kind ∈ replaced, m'.tree.read (c.outputDir.join (kind.settings c).file) =
          .ok (p.artifactText isPretty c kind)) ∧
        ∀ kind ∈ kept,
          SameFile m.tree m'.tree ((c.outputDir.join (kind.settings c).file).goal m.tree.work) := by
  obtain ⟨t, hends, hremove⟩ := p.emit_ensures hc events m' _ hr hremoves
  have hdistinct := p.nodup_allGoals_batch isPretty hc
  obtain ⟨-, -, hapart⟩ := nodup_allGoals_append hdistinct
  have hremoved : m.tree.Changes {c.manifestPath.goal m.tree.work} t := by
    rcases hremove with hremove | ⟨-, rfl⟩
    · exact .remove hremove
    · exact .refl _
  obtain ⟨moved, kept, hbatch, hmoved, hkept, hdone⟩ := hends.replaced
  obtain ⟨replaced, kinds, hall, rfl, rfl⟩ :=
    of_batch_eq_append hbatch fun hnil => by cases hdone.2 hnil
  have hmanifest : SameFile t m'.tree (c.manifestPath.goal m.tree.work) :=
    hkept (p.manifestFile run isPretty c) (List.mem_append_right _ (.head _))
  have hunpublished : c.Unpublished m' ↔
      (m.tree.remove c.manifestPath = .error .missing → c.Unpublished m) := by
    rw [Config.Unpublished, hends.changes.work, hremoved.work]
    rcases hremove with hremove | ⟨hmissing, rfl⟩
    · refine ⟨fun _ hmissing => ?_,
        fun _ => hmanifest.vacant (vacant_of_at? (at?_of_remove hremove))⟩
      rw [hmissing] at hremove
      cases hremove
    · refine ⟨fun hgone _ text hat => ?_, fun hthere => hmanifest.vacant (hthere hmissing)⟩
      exact hgone text ((hmanifest text).2 hat)
  refine ⟨fun f hf => ?_, hunpublished, fun hrooted hdescends => ?_, replaced, kinds, hall,
    fun kind hkind => ?_, fun kind hkind => ?_⟩
  · have hstaging : (of run c.outputDir f).staging.goal m.tree.work ∈
        stagingGoals m.tree.work (p.batch run isPretty c) :=
      p.stagingGoals_batch ▸ List.mem_map_of_mem hf
    have hne : (of run c.outputDir f).staging.goal m.tree.work ≠
        c.manifestPath.goal m.tree.work := fun heq =>
      target_notMem hdistinct (List.mem_append_right _ (.head _)) (heq ▸ hstaging)
    exact fun text hat => (hremoved.sameFile hne text).1 (hends.unstaged _ hstaging text hat)
  · exact hunpublished.2 (hrooted.vacant_of_remove hdescends)
  · have hmem : p.artifact run isPretty c kind ∈ replaced.map (p.artifact run isPretty c) :=
      List.mem_map_of_mem hkind
    exact hmoved _ (List.mem_map_of_mem hmem)
  · have hmem : p.artifact run isPretty c kind ∈ kinds.map (p.artifact run isPretty c) :=
      List.mem_map_of_mem hkind
    have hfile : p.artifact run isPretty c kind ∈
        ArtifactKind.all.map (p.artifact run isPretty c) := by
      rw [hall, List.map_append]
      exact List.mem_append_right _ hmem
    have hne : (p.artifact run isPretty c kind).1.target.goal m.tree.work ≠
        c.manifestPath.goal m.tree.work := fun heq =>
      hapart _ (List.mem_append_left _ (target_mem hfile)) (heq ▸ .head _)
    exact (hremoved.sameFile hne).trans (hkept _ (List.mem_append_left _ hmem))

/-- An output directory with a manifest and an artifact of an earlier compilation, and with a
directory in the place of another artifact. -/
def blockedMachine : Machine where
  tree := {
    work := []
    nodes := [(["out"], .directory), (["out", "manifest.json"], .file "old"),
      (["out", "container.json"], .file "old"), (["out", "listeners.json"], .directory)] }

/-- A project with an output directory. -/
def projectInto (dir : Path) : Config where
  output := { dir }

/-- Writes artifacts without content for such a project. -/
def emitInto (dir : Path) : Job (Except CompileError Manifest) :=
  ({} : Plans).emit "1" true (projectInto dir)

/-- A run that finds a directory in the place of an artifact fails with its removals carried out,
and leaves no manifest. -/
theorem emit_failed_blocked : ∃ e m',
    Runs (emitInto "out") blockedMachine (blockedMachine.exchanges (emitInto "out")) m'
      (some (.error e)) ∧
    (∀ x ∈ blockedMachine.exchanges (emitInto "out"), Exchange.removes x = true) ∧
    (projectInto "out").Unpublished m' := by
  obtain ⟨hfailed, hremoves⟩ : (blockedMachine.run (emitInto "out")).1.isOk = false ∧
      ∀ x ∈ blockedMachine.exchanges (emitInto "out"), Exchange.removes x = true := by
    decide +kernel
  have hc : (projectInto "out").Separates blockedMachine.tree.work "1" :=
    Config.PlainNames.separates ⟨by decide, by decide⟩ ⟨by decide, by decide⟩ _
  obtain ⟨e, hr⟩ := exists_runs_of_failed hfailed
  obtain ⟨-, hmanifest, -⟩ := emit_failed {} hc hr hremoves
  refine ⟨e, _, hr, hremoves, hmanifest.2 fun hmissing => ?_⟩
  have hthere : (blockedMachine.tree.remove (projectInto "out").manifestPath).isOk = true := by
    decide +kernel
  rw [hmissing] at hthere
  cases hthere

/-- The same directory by way of one that is missing: the manifest is taken for missing, and it is
back once the missing directory is made. -/
theorem exists_manifest_left : ∃ dir e m', (projectInto dir).check = .ok () ∧
    (projectInto dir).Separates blockedMachine.tree.work "1" ∧
    Runs (emitInto dir) blockedMachine (blockedMachine.exchanges (emitInto dir)) m'
      (some (.error e)) ∧
    (∀ x ∈ blockedMachine.exchanges (emitInto dir), Exchange.removes x = true) ∧
    ¬ (projectInto dir).Unpublished m' := by
  let dir : Path := "build/../out"
  have hcheck : (projectInto dir).check = .ok () := Result.toOption_eq_some.1 (by decide +kernel)
  have hc : (projectInto dir).Separates blockedMachine.tree.work "1" :=
    Config.PlainNames.separates ⟨by decide, by decide⟩ ⟨by decide, by decide⟩ _
  obtain ⟨hfailed, hremoves, hthere⟩ : (blockedMachine.run (emitInto dir)).1.isOk = false ∧
      (∀ x ∈ blockedMachine.exchanges (emitInto dir), Exchange.removes x = true) ∧
      (blockedMachine.run (emitInto dir)).2.tree.at? ((projectInto dir).manifestPath.goal
        (blockedMachine.run (emitInto dir)).2.tree.work) = some (.file "old") := by decide +kernel
  obtain ⟨e, hr⟩ := exists_runs_of_failed hfailed
  exact ⟨dir, e, _, hcheck, hc, hr, hremoves, fun hgone => hgone "old" hthere⟩

end Plans

end Wiring
