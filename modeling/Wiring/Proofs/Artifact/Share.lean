import Wiring.Proofs.Artifact.Batch
import Wiring.Proofs.Disk.Share

/-!
# Batches of several runs

Runs write files of the same names into one directory, each with texts of its own, while another
process reads them. Every run has staging places of its own and leaves those of the others alone;
what it moves into place is one of its own texts, and its last file only once all others are in
place (`Batches.Rule`). So whoever finds the last file finds the text of a run that moved it there,
and in every other place a text of one of the runs (`Batches.Sound`). A run keeps to this whatever
the others do (`Batches.prepare_works`, `Batches.publish_works`).
-/

namespace Wiring

open Disk Tree

/-- Batches that runs write into one directory: where its path is seen from, the names of the files
and of the last one, and for each run its own name and its texts. -/
structure Batches (κ : Type) where
  work : Place
  dir : Path
  names : List String
  last : String
  run : κ → String
  text : κ → String → String

namespace Batches

section
variable {κ : Type}

/-- The names of all files. -/
def allNames (B : Batches κ) : List String :=
  B.names ++ [B.last]

/-- The place of a file. -/
def final (B : Batches κ) (f : String) : Place :=
  (B.dir.join f).goal B.work

/-- A file as a run stages it. -/
def staged (B : Batches κ) (k : κ) (f : String) : Staged :=
  Staged.of (B.run k) B.dir f

/-- The place where a run stages a file. -/
def place (B : Batches κ) (k : κ) (f : String) : Place :=
  (B.staged k f).staging.goal B.work

/-- All files, final and staged, have places of their own. -/
structure Apart (B : Batches κ) : Prop where
  nodup : B.allNames.Nodup
  final : ∀ f ∈ B.allNames, ∀ f' ∈ B.allNames, B.final f = B.final f' → f = f'
  place : ∀ k, ∀ f ∈ B.allNames, ∀ k', ∀ f' ∈ B.allNames, B.place k f = B.place k' f' →
    k = k' ∧ f = f'
  unstaged : ∀ f ∈ B.allNames, ∀ k, ∀ f' ∈ B.allNames, B.final f ≠ B.place k f'

/-- A file is in place with the text of one of the runs. -/
def Placed (B : Batches κ) (t : Tree) (f : String) : Prop :=
  ∃ k, t.at? (B.final f) = some (.file (B.text k f))

/-- The request that moves the last file of a run into place, with its answer. -/
def moved (B : Batches κ) (k : κ) : Exchange :=
  ⟨.rename (B.staged k B.last).staging (B.staged k B.last).target, .ok ()⟩

/-- Of all runs, this one was the last that moved its last file into place. -/
def Wrote (B : Batches κ) (k : κ) (log : List (Option κ × Exchange)) : Prop :=
  ∃ before after, log = before ++ (some k, B.moved k) :: after ∧ ∀ k', (some k', B.moved k') ∉ after

/-- The directory is seen from where the runs see it, and if the last file is there, it is of the
run that moved it there, and all other files are in place. -/
structure Sound (B : Batches κ) (s : Shared (Option κ)) : Prop where
  work : s.machine.tree.work = B.work
  last : ∀ text, s.machine.tree.at? (B.final B.last) = some (.file text) →
    ∃ k, B.Wrote k s.log ∧ text = B.text k B.last ∧ ∀ f ∈ B.names, B.Placed s.machine.tree f

/-- A process logs what it does under its own name. -/
def Logs (p : Option κ) (s s' : Shared (Option κ)) : Prop :=
  ∃ new : List Exchange, s'.log = s.log ++ new.map (p, ·)

/-- What a process logs under its own name is not that a last file was moved into place. -/
def Quiet (B : Batches κ) (p : Option κ) (s s' : Shared (Option κ)) : Prop :=
  ∃ new : List Exchange, s'.log = s.log ++ new.map (p, ·) ∧ ∀ k, B.moved k ∉ new

/-- What a process does: what others staged stays, and files that are in place stay in place with
the text of one of the runs. -/
structure Rule (B : Batches κ) (p : Option κ) (s s' : Shared (Option κ)) : Prop where
  logs : Logs p s s'
  staged : ∀ k, some k ≠ p → ∀ f ∈ B.allNames, ∀ text,
    s.machine.tree.at? (B.place k f) = some (.file text) →
      s'.machine.tree.at? (B.place k f) = some (.file text)
  placed : ∀ f ∈ B.names, B.Placed s.machine.tree f → B.Placed s'.machine.tree f
  sound : B.Sound s → B.Sound s'

/-- What a run knows while it is at work: some of its files are staged with its texts, and some are
in place with the text of one of the runs. -/
structure Keeps (B : Batches κ) (k : κ) (waiting placed : List String) (s : Shared (Option κ)) :
    Prop where
  sound : B.Sound s
  waiting : ∀ f ∈ waiting, s.machine.tree.at? (B.place k f) = some (.file (B.text k f))
  placed : ∀ f ∈ placed, B.Placed s.machine.tree f

variable {B : Batches κ} {k : κ} {p : Option κ} {s s' : Shared (Option κ)} {m : Machine} {t : Tree}
  {waiting placed files : List String} {f : String} {places : Set Place}

/-- The files of a batch are among its names. -/
theorem mem_allNames (h : f ∈ B.names) : f ∈ B.allNames :=
  List.mem_append_left _ h

/-- The last file of a batch is among its names. -/
theorem last_mem_allNames : B.last ∈ B.allNames :=
  List.mem_append_right _ (.head _)

/-- The last file of a batch is not published before. -/
theorem Apart.last_notMem (hB : B.Apart) : B.last ∉ B.names :=
  fun hmem => (List.nodup_append.1 hB.nodup).2.2 _ hmem _ (.head _) rfl

/-- A run stages a file at its own place. -/
theorem Sound.goal_staging (hs : B.Sound s) (k : κ) (f : String) :
    (B.staged k f).staging.goal s.machine.tree.work = B.place k f := by
  rw [hs.work, place]

/-- A file of the batch is at its final place. -/
theorem Sound.goal_join (hs : B.Sound s) (f : String) :
    (B.dir.join f).goal s.machine.tree.work = B.final f := by
  rw [hs.work, final]

/-! ## Steps that keep to the rule -/

/-- A quiet step is logged under the name of its process. -/
theorem Quiet.logs (h : B.Quiet p s s') : Logs p s s' :=
  h.imp fun _ h => h.1

/-- A step that logs nothing is quiet. -/
theorem quiet_part (p : Option κ) (s : Shared (Option κ)) (m : Machine) :
    B.Quiet p s { s with machine := m } :=
  ⟨[], (List.append_nil _).symm, fun _ => List.not_mem_nil⟩

/-- An answer is logged under the name of the process that asked. -/
theorem logs_answered (p : Option κ) (s : Shared (Option κ)) (r : Disk.Request) (a : r.Answer)
    (m : Machine) :
    Logs p s (s.answered p r a m) :=
  ⟨[⟨r, a⟩], rfl⟩

/-- An answer is quiet unless it moves a last file into its place. -/
theorem quiet_answered {r : Disk.Request} {a : r.Answer} (h : ∀ k, B.moved k ≠ ⟨r, a⟩) :
    B.Quiet p s (s.answered p r a m) :=
  ⟨[⟨r, a⟩], rfl, fun k hk => h k (List.mem_singleton.1 hk)⟩

/-- Requests that move no file are quiet. -/
theorem quiet_remove (q : Path) (a : (Disk.Request.remove q).Answer) :
    B.Quiet p s (s.answered p (.remove q) a m) :=
  quiet_answered fun _ => nofun

/-- Writing a file is quiet. -/
theorem quiet_write (q : Path) (text : String) (a : (Disk.Request.write q text).Answer) :
    B.Quiet p s (s.answered p (.write q text) a m) :=
  quiet_answered fun _ => nofun

/-- Making a directory is quiet. -/
theorem quiet_createDirs (q : Path) (a : (Disk.Request.createDirs q).Answer) :
    B.Quiet p s (s.answered p (.createDirs q) a m) :=
  quiet_answered fun _ => nofun

/-- Reading a file is quiet. -/
theorem quiet_read (q : Path) (a : (Disk.Request.read q).Answer) :
    B.Quiet p s (s.answered p (.read q) a m) :=
  quiet_answered fun _ => nofun

/-- Quiet steps do not change which run was the last to move its last file. -/
theorem Wrote.of_quiet (h : B.Wrote k s.log) (hquiet : B.Quiet p s s') : B.Wrote k s'.log := by
  obtain ⟨before, after, hlog, hafter⟩ := h
  obtain ⟨new, hnew, hmoved⟩ := hquiet
  refine ⟨before, after ++ new.map (p, ·), by rw [hnew, hlog]; simp, fun k' hk' => ?_⟩
  rcases List.mem_append.1 hk' with hk' | hk'
  · exact hafter k' hk'
  · obtain ⟨e, he, heq⟩ := List.mem_map.1 hk'
    cases heq
    exact hmoved k' he

/-- A file stays in its place while other places change. -/
theorem Placed.of_changes (h : t.Changes places m.tree) (hf : B.final f ∉ places)
    (hp : B.Placed t f) :
    B.Placed m.tree f := by
  obtain ⟨k, hk⟩ := hp
  exact ⟨k, (h.file _ hf _).2 hk⟩

/-- A step that neither changes the last file nor moves one into place. -/
theorem Sound.of_changes (hs : B.Sound s) (hquiet : B.Quiet p s s')
    (h : s.machine.tree.Changes places s'.machine.tree) (hlast : B.final B.last ∉ places)
    (hplaced : ∀ f ∈ B.names, B.Placed s.machine.tree f → B.Placed s'.machine.tree f) :
    B.Sound s' := by
  refine ⟨h.work.trans hs.work, fun text htext => ?_⟩
  obtain ⟨k, hwrote, hk, hall⟩ := hs.last text ((h.file _ hlast text).1 htext)
  exact ⟨k, hwrote.of_quiet hquiet, hk, fun f hf => hplaced f hf (hall f hf)⟩

/-- A step that changes no file that others staged, and leaves what it has to where it changes a
file in place. -/
theorem Rule.of_changes (hlogs : Logs p s s') (h : s.machine.tree.Changes places s'.machine.tree)
    (hplace : ∀ k, some k ≠ p → ∀ f ∈ B.allNames, B.place k f ∉ places)
    (hplaced : ∀ f ∈ B.names, B.final f ∈ places → B.Placed s'.machine.tree f)
    (hsound : (∀ f ∈ B.names, B.Placed s.machine.tree f → B.Placed s'.machine.tree f) → B.Sound s →
      B.Sound s') : B.Rule p s s' := by
  have hplaced f (hf : f ∈ B.names) (hp : B.Placed s.machine.tree f) :
    B.Placed s'.machine.tree f := by
    by_cases hmem : B.final f ∈ places
    · exact hplaced f hf hmem
    · exact hp.of_changes h hmem
  exact ⟨hlogs, fun k hk f hf text htext => (h.file _ (hplace k hk f hf) text).2 htext, hplaced,
    hsound hplaced⟩

/-- A step that changes no file. -/
theorem Rule.of_changes_empty (hquiet : B.Quiet p s s')
    (h : s.machine.tree.Changes ∅ s'.machine.tree) : B.Rule p s s' :=
  .of_changes hquiet.logs h (fun _ _ _ _ => Set.notMem_empty _) (fun _ _ => nofun)
    fun hplaced hs => hs.of_changes hquiet h (Set.notMem_empty _) hplaced

/-- A step of a run that changes only the file in one of its staging places. -/
theorem Rule.of_changes_place (hB : B.Apart) (hf : f ∈ B.allNames) (hquiet : B.Quiet (some k) s s')
    (h : s.machine.tree.Changes {B.place k f} s'.machine.tree) : B.Rule (some k) s s' := by
  refine .of_changes hquiet.logs h (fun k' hk' f' hf' heq => ?_) (fun f' hf' heq => ?_)
    fun hplaced hs => ?_
  · exact hk' (congrArg some (hB.place k' f' hf' k f hf heq).1)
  · exact absurd heq (hB.unstaged f' (mem_allNames hf') k f hf)
  · exact hs.of_changes hquiet h (hB.unstaged _ last_mem_allNames k f hf) hplaced

/-- A step that removes the last file. -/
theorem Rule.remove_last (hB : B.Apart) (hs : B.Sound s) (hlogs : Logs p s s')
    (h : s.machine.tree.remove (B.dir.join B.last) = .ok s'.machine.tree) : B.Rule p s s' := by
  have hchanges := Changes.remove h
  have hgone := at?_of_remove h
  rw [hs.goal_join] at hchanges hgone
  refine .of_changes hlogs hchanges (fun k' _ f' hf' heq => ?_) (fun f' hf' heq => ?_)
    fun _ _ => ⟨hchanges.work.trans hs.work, fun text htext => ?_⟩
  · exact hB.unstaged _ last_mem_allNames k' f' hf' heq.symm
  · exact absurd (hB.final f' (mem_allNames hf') _ last_mem_allNames heq ▸ hf') hB.last_notMem
  · rw [hgone] at htext
    cases htext

/-- Only the staging place and the final place of a file change when a run moves it. -/
theorem place_notMem (hB : B.Apart) {k' : κ} {f' : String} (hf : f ∈ B.allNames)
    (hf' : f' ∈ B.allNames)
    (hne : ¬ (k' = k ∧ f' = f)) : B.place k' f' ∉ ({B.place k f, B.final f} : Set Place) := by
  rintro (heq | heq)
  · exact hne (hB.place k' f' hf' k f hf heq)
  · exact hB.unstaged f hf k' f' hf' heq.symm

/-- The places that a move changes hold the final place of no other file. -/
theorem eq_of_final_mem (hB : B.Apart) {f' : String} (hf : f ∈ B.allNames) (hf' : f' ∈ B.allNames)
    (h : B.final f' ∈ ({B.place k f, B.final f} : Set Place)) : f' = f := by
  rcases h with heq | heq
  · exact absurd heq (hB.unstaged f' hf' k f hf)
  · exact hB.final f' hf' f hf heq

/-- Moving a file that is not moved after all keeps to the rule. -/
theorem Rule.of_refused (s : Shared (Option κ)) (source target : Path) (fault : Disk.Fault) :
    B.Rule p s (s.answered p (.rename source target) (.error fault) s.machine) :=
  .of_changes_empty (quiet_answered fun _ => nofun) (.refl _)

/-- Moving another file is not moving a last one. -/
theorem moved_ne (hB : B.Apart) (hf : f ∈ B.names) (k k' : κ) :
    B.moved k' ≠ ⟨.rename (B.staged k f).staging (B.staged k f).target, .ok ()⟩ := by
  intro heq
  have hpaths := Disk.Request.rename.inj (congrArg Sigma.fst heq)
  have hplaces : B.place k' B.last = B.place k f := congrArg (Path.goal · B.work) hpaths.1
  exact hB.last_notMem ((hB.place k' _ last_mem_allNames k f (mem_allNames hf) hplaces).2 ▸ hf)

section
variable (hB : B.Apart) (hs : B.Sound s)
  (hat : s.machine.tree.at? (B.place k f) = some (.file (B.text k f)))
  (h : s.machine.tree.rename (B.staged k f).staging (B.staged k f).target = .ok s'.machine.tree)
include hB hs hat h

omit hB hat in

/-- A move changes the place that it moves from and the one that it moves to. -/
theorem changes_rename : s.machine.tree.Changes {B.place k f, B.final f} s'.machine.tree := by
  have hchanges := Changes.rename h
  rwa [hs.goal_staging, staged, Staged.of_target, hs.goal_join] at hchanges

omit hB in
/-- The file that was moved is in place. -/
theorem at?_final_of_rename : s'.machine.tree.at? (B.final f) = some (.file (B.text k f)) := by
  rw [← hs.goal_staging] at hat
  have hmoved := at?_of_rename h hat
  rwa [staged, Staged.of_target, hs.goal_join] at hmoved

/-- A step of a run that moves one of its files into place. -/
theorem Rule.rename (hf : f ∈ B.names) (hquiet : B.Quiet (some k) s s') : B.Rule (some k) s s' := by
  have hall := mem_allNames hf
  have hchanges := changes_rename hs h
  refine .of_changes hquiet.logs hchanges (fun k' hk' f' hf' => ?_) (fun f' hf' hmem => ?_)
    fun hplaced hs => hs.of_changes hquiet hchanges (fun hmem => ?_) hplaced
  · exact place_notMem hB hall hf' fun heq => hk' (congrArg some heq.1)
  · rw [eq_of_final_mem hB hall (mem_allNames hf') hmem]
    exact ⟨k, at?_final_of_rename hs hat h⟩
  · exact hB.last_notMem (eq_of_final_mem hB hall last_mem_allNames hmem ▸ hf)

/-- A step of a run that moves its last file into place, when all others are. -/
theorem Rule.rename_last (hf : f = B.last) (hplaced : ∀ f ∈ B.names, B.Placed s.machine.tree f)
    (hlogs : Logs (some k) s s') (hwrote : B.Wrote k s'.log) : B.Rule (some k) s s' := by
  subst hf
  have hnames f' (hf' : f' ∈ B.names) :
      B.final f' ∉ ({B.place k B.last, B.final B.last} : Set Place) := fun hmem =>
    hB.last_notMem (eq_of_final_mem hB last_mem_allNames (mem_allNames hf') hmem ▸ hf')
  have hchanges := changes_rename hs h
  refine .of_changes hlogs hchanges (fun k' hk' f' hf' => ?_) (fun f' hf' hmem => ?_)
    fun _ _ => ⟨hchanges.work.trans hs.work, fun text htext => ?_⟩
  · exact place_notMem hB last_mem_allNames hf' fun heq => hk' (congrArg some heq.1)
  · exact absurd hmem (hnames f' hf')
  · rw [at?_final_of_rename hs hat h] at htext
    cases htext
    exact ⟨k, hwrote, rfl, fun f' hf' => (hplaced f' hf').of_changes hchanges (hnames f' hf')⟩

end

/-! ## What a run knows -/

/-- Soundness is kept by all that a process may do. -/
theorem stable_sound (p : Option κ) : Stable B.Rule p B.Sound :=
  fun _ _ _ _ hrule hs => hrule.sound hs

/-- What a run knows stays true whatever the others do. -/
theorem stable_keeps (hwaiting : ∀ f ∈ waiting, f ∈ B.allNames)
    (hplaced : ∀ f ∈ placed, f ∈ B.names) :
    Stable B.Rule (some k) (B.Keeps k waiting placed) := by
  intro q hq s s' hrule hs
  exact ⟨hrule.sound hs.sound,
    fun f hf => hrule.staged k hq.symm f (hwaiting f hf) _ (hs.waiting f hf),
    fun f hf => hrule.placed f (hplaced f hf) (hs.placed f hf)⟩

/-- A run that changes the file in another of its staging places still knows what it knew. -/
theorem Keeps.of_changes_place (hs : B.Keeps k waiting placed s) (hB : B.Apart)
    (hf : f ∈ B.allNames)
    (hwaiting : ∀ f ∈ waiting, f ∈ B.allNames) (hplaced : ∀ f ∈ placed, f ∈ B.names)
    (hnew : f ∉ waiting) (hquiet : B.Quiet (some k) s s')
    (h : s.machine.tree.Changes {B.place k f} s'.machine.tree) : B.Keeps k waiting placed s' := by
  have hrule := Rule.of_changes_place hB hf hquiet h
  refine ⟨hrule.sound hs.sound, fun f' hf' => ?_,
    fun f' hf' => hrule.placed f' (hplaced f' hf') (hs.placed f' hf')⟩
  have hne : B.place k f' ∉ ({B.place k f} : Set Place) := fun heq =>
    hnew ((hB.place k f' (hwaiting f' hf') k f hf heq).2 ▸ hf')
  exact (h.file _ hne _).2 (hs.waiting f' hf')

/-- Removing staged files keeps to the rule. -/
theorem discard_works (hB : B.Apart) {ss : List Staged}
    (hss : ∀ x ∈ ss, ∃ f ∈ B.allNames, x = B.staged k f) (hs : B.Sound s) :
    (Staged.discard ss).Works B.Rule (some k) s fun _ _ => True := by
  induction ss generalizing s with
  | nil => exact .done (fun _ _ _ _ _ _ => trivial) trivial
  | cons x rest ih =>
    obtain ⟨⟨f, hf, rfl⟩, hrest⟩ := List.forall_mem_cons.1 hss
    rw [Staged.discard]
    refine .ask B.Sound (stable_sound _) hs (fun s m hs hm => ?_) fun s a m hs ha => ?_
    · rw [hm.eq_of_remove]
      exact ⟨.of_changes_empty (quiet_part ..) (.refl _), hs⟩
    · have hrule :
          B.Rule (some k) s (s.answered (some k) (.remove (B.staged k f).staging) a m) := by
        rcases ha.of_remove with ⟨t, hremove, rfl, rfl⟩ | ⟨-, rfl, rfl⟩ | ⟨rfl, rfl⟩
        · have hchanges := Changes.remove hremove
          rw [hs.goal_staging] at hchanges
          exact .of_changes_place hB hf (quiet_remove ..) hchanges
        · exact .of_changes_empty (quiet_remove ..) (.refl _)
        · exact .of_changes_empty (quiet_remove ..) (.refl _)
      exact ⟨hrule, ih hrest (hrule.sound hs)⟩

/-- A failure comes after staged files were removed. -/
theorem fail_works {α : Type} (hB : B.Apart) {ss : List Staged} {e : CompileError}
    {post : Except CompileError α → Shared (Option κ) → Prop}
    (hss : ∀ x ∈ ss, ∃ f ∈ B.allNames, x = B.staged k f) (hs : B.Sound s)
    (hpost : ∀ s, post (.error e) s) :
    (do Staged.discard ss; return .error e : Job (Except CompileError α)).Works B.Rule (some k) s
      post :=
  .bind ((discard_works hB hss hs).imp fun _ s _ => .done (fun _ _ _ s' _ _ => hpost s') (hpost s))

/-- A run that stages files keeps to the rule, and when all are staged it knows so. -/
theorem stage_works (hB : B.Apart) {staged : List Staged} (files : List String)
    (hstaged : ∀ x ∈ staged, ∃ f ∈ B.allNames, x = B.staged k f)
    (hall : ∀ f ∈ waiting ++ files, f ∈ B.allNames) (hplaced : ∀ f ∈ placed, f ∈ B.names)
    (hnodup : (waiting ++ files).Nodup) (hs : B.Keeps k waiting placed s) :
    (Batch.stage (B.run k) B.dir staged (files.map fun f => (f, B.text k f))).Works B.Rule
      (some k) s fun result s' => ∀ staged', result = .ok staged' →
        staged' = staged ++ files.map (B.staged k) ∧ B.Keeps k (waiting ++ files) placed s' := by
  induction files generalizing s staged waiting with
  | nil =>
    rw [List.append_nil] at hall ⊢
    refine .done (fun q hq s s' hrule h staged' hstaged' => ?_) fun staged' hstaged' => ?_
    · exact ⟨(h staged' hstaged').1, stable_keeps hall hplaced q hq s s' hrule
        (h staged' hstaged').2⟩
    · cases hstaged'
      exact ⟨(List.append_nil _).symm, hs⟩
  | cons f rest ih =>
    have hwaiting : ∀ f' ∈ waiting, f' ∈ B.allNames :=
      fun f' hf' => hall f' (List.mem_append_left _ hf')
    have hf : f ∈ B.allNames := hall f (List.mem_append_right _ (.head _))
    have hnew : f ∉ waiting := fun hmem => (List.nodup_append.1 hnodup).2.2 f hmem f (.head _) rfl
    have hstaged' : ∀ x ∈ staged ++ [B.staged k f], ∃ f' ∈ B.allNames, x = B.staged k f' := by
      simpa [or_imp, forall_and] using ⟨hstaged, f, hf, rfl⟩
    have hof : Staged.of (B.run k) B.dir f = B.staged k f := rfl
    rw [List.map_cons, Batch.stage, hof]
    refine .ask (B.Keeps k waiting placed) (stable_keeps hwaiting hplaced) hs
      (fun s m hs hm => ?_) fun s a m hs ha => ?_
    · -- half a file may stand where it is staged, which no other run looks at
      have hchanges := hm.changes_write
      rw [hs.sound.goal_staging] at hchanges
      exact ⟨.of_changes_place hB hf (quiet_part ..) hchanges,
        hs.of_changes_place hB hf hwaiting hplaced hnew (quiet_part ..) hchanges⟩
    rcases ha.of_write with ⟨t, hwrite, rfl, rfl⟩ | ⟨hm, fault, rfl⟩
    · have hchanges := Changes.write hwrite
      have hat := at?_of_write hwrite
      rw [hs.sound.goal_staging] at hchanges hat
      have hquiet : B.Quiet (some k) s (s.answered (some k)
          (.write (B.staged k f).staging (B.text k f)) (.ok ()) { s.machine with tree := t }) :=
        quiet_write ..
      have hkeeps := hs.of_changes_place hB hf hwaiting hplaced hnew hquiet hchanges
      refine ⟨.of_changes_place hB hf hquiet hchanges, ?_⟩
      rw [List.append_cons] at hall hnodup
      refine .imp (ih hstaged' hall hnodup ⟨hkeeps.sound, ?_, hkeeps.placed⟩) ?_
      · intro f' hf'
        rcases List.mem_append.1 hf' with hf' | hf'
        · exact hkeeps.waiting f' hf'
        · cases List.mem_singleton.1 hf'
          exact hat
      · intro result s' h staged' hstaged'
        simpa [Batches.staged] using h staged' hstaged'
    · have hchanges := hm.changes_write
      rw [hs.sound.goal_staging] at hchanges
      have hrule := Rule.of_changes_place hB hf
        (quiet_write (B.staged k f).staging (B.text k f) (.error fault)) hchanges
      exact ⟨hrule, fail_works hB hstaged' (hrule.sound hs.sound) fun _ => Result.of_error_eq_ok⟩

/-- A run that moves its files keeps to the rule, and when all are moved they are in place. -/
theorem move_works (hB : B.Apart) {published : List Path} (files : List String)
    (hfiles : ∀ f ∈ files, f ∈ B.names) (hplaced : ∀ f ∈ placed, f ∈ B.names) (hnodup : files.Nodup)
    (hs : B.Keeps k files placed s) :
    (Batch.move published (files.map (B.staged k))).Works B.Rule (some k) s fun result s' =>
      ∀ paths, result = .ok paths → B.Keeps k [] (placed ++ files) s' := by
  induction files generalizing s published placed with
  | nil =>
    rw [List.append_nil]
    have hstable : Stable B.Rule (some k) (B.Keeps k [] placed) :=
      stable_keeps (List.forall_mem_nil _) hplaced
    exact .done (fun q hq s s' hrule h paths hpaths => hstable q hq s s' hrule (h paths hpaths))
      fun _ _ => hs
  | cons f rest ih =>
    obtain ⟨hf, hrest⟩ := List.forall_mem_cons.1 hfiles
    have hplaced' : ∀ f' ∈ placed ++ [f], f' ∈ B.names := by
      simpa [or_imp, forall_and] using ⟨hplaced, hf⟩
    rw [List.map_cons, Batch.move]
    refine .ask (B.Keeps k (f :: rest) placed)
      (stable_keeps (fun f' hf' => mem_allNames (hfiles f' hf')) hplaced) hs
      (fun s m hs hm => ?_) fun s a m hs ha => ?_
    · rw [hm.eq_of_rename]
      exact ⟨.of_changes_empty (quiet_part ..) (.refl _), hs⟩
    rcases ha.of_rename with ⟨t, hrename, rfl, rfl⟩ | ⟨rfl, fault, rfl⟩
    · have hat := hs.waiting f (.head _)
      have hquiet : B.Quiet (some k) s (s.answered (some k)
          (.rename (B.staged k f).staging (B.staged k f).target) (.ok ())
          { s.machine with tree := t }) :=
        quiet_answered (moved_ne hB hf k)
      have hrule := Rule.rename hB hs.sound hat hrename hf hquiet
      refine ⟨hrule, ?_⟩
      rw [List.append_cons placed]
      refine ih hrest hplaced' (List.nodup_cons.1 hnodup).2
        ⟨hrule.sound hs.sound, fun f' hf' => ?_, ?_⟩
      · have hne : ¬ (k = k ∧ f' = f) := fun heq => (List.nodup_cons.1 hnodup).1 (heq.2 ▸ hf')
        exact ((changes_rename hs.sound hrename).file _
          (place_notMem hB (mem_allNames hf) (mem_allNames (hrest f' hf')) hne) _).2
          (hs.waiting f' (.tail _ hf'))
      · intro f' hf'
        rcases List.mem_append.1 hf' with hf' | hf'
        · exact hrule.placed f' (hplaced f' hf') (hs.placed f' hf')
        · cases List.mem_singleton.1 hf'
          exact ⟨k, at?_final_of_rename hs.sound hat hrename⟩
    · have hrule := Rule.of_refused (B := B) (p := some k) s (B.staged k f).staging
        (B.staged k f).target fault
      refine ⟨hrule, fail_works hB ?_ (hrule.sound hs.sound) fun _ => Result.of_error_eq_ok⟩
      intro x hx
      obtain ⟨f', hf', rfl⟩ := List.mem_map.1 (show x ∈ (f :: rest).map (B.staged k) from hx)
      exact ⟨f', mem_allNames (hfiles f' hf'), rfl⟩

/-- A run that makes the directory and stages all files but the last keeps to the rule. -/
theorem prepare_works (hB : B.Apart) (hs : B.Sound s) :
    (Batch.prepare (B.run k) B.dir (B.names.map fun f => (f, B.text k f))).Works B.Rule (some k) s
      fun result s' => ∀ staged, result = .ok staged →
        staged = B.names.map (B.staged k) ∧ B.Keeps k B.names [] s' := by
  have hnone : ∀ f ∈ ([] : List String), f ∈ B.names := List.forall_mem_nil _
  rw [Batch.prepare, Batch.start]
  refine .ask B.Sound (stable_sound _) hs (fun s m hs hm => ?_) fun s a m hs ha => ?_
  · have hrule := Rule.of_changes_empty (B := B) (quiet_part (some k) s m) hm.changes_createDirs
    exact ⟨hrule, hrule.sound hs⟩
  have hquiet : B.Quiet (some k) s (s.answered (some k) (.createDirs B.dir) a m) :=
    quiet_createDirs ..
  have hrule := Rule.of_changes_empty hquiet ha.changes_createDirs
  refine ⟨hrule, ?_⟩
  cases a with
  | ok =>
    have hnodup : ([] ++ B.names).Nodup := (List.nodup_append.1 hB.nodup).1
    exact stage_works hB B.names (List.forall_mem_nil _) (fun f hf => mem_allNames hf) hnone hnodup
      ⟨hrule.sound hs, List.forall_mem_nil _, List.forall_mem_nil _⟩
  | error fault => exact .error

/-- A run that moves all files into place, and then writes the last one, keeps to the rule. -/
theorem publish_works (hB : B.Apart) (hs : B.Keeps k B.names [] s) :
    (Batch.publish (B.run k) B.dir (B.names.map (B.staged k)) B.last (B.text k B.last)).Works B.Rule
      (some k) s fun _ _ => True := by
  have hgoOn {α : Type} (a : α) (s : Shared (Option κ)) :
      (Job.done a).Works B.Rule (some k) s fun _ _ => True :=
    .done (fun _ _ _ _ _ _ => trivial) trivial
  have hlast : ∀ f ∈ [B.last], f ∈ B.allNames :=
    fun f hf => List.mem_singleton.1 hf ▸ last_mem_allNames
  rw [Batch.publish]
  refine .bind (.imp (move_works hB B.names (fun _ hf => hf) (List.forall_mem_nil _)
    (List.nodup_append.1 hB.nodup).1 hs) ?_)
  rintro (e | published) s₁ hmoved
  · exact hgoOn ..
  refine .bind (.imp (stage_works hB [B.last] (List.forall_mem_nil _) hlast (fun _ hf => hf)
    (List.nodup_singleton B.last) (hmoved published rfl)) ?_)
  rintro (e | last) s₂ hstaged
  · exact hgoOn ..
  obtain ⟨rfl, hkeeps⟩ := hstaged last rfl
  refine .ask (B.Keeps k [B.last] B.names) (stable_keeps hlast fun _ hf => hf) hkeeps
    (fun s m hs hm => ?_) fun s a m hs ha => ?_
  · rw [hm.eq_of_rename]
    exact ⟨.of_changes_empty (quiet_part ..) (.refl _), hs⟩
  rcases ha.of_rename with ⟨t, hrename, rfl, rfl⟩ | ⟨rfl, fault, rfl⟩
  · have hlogs := logs_answered (some k) s
      (.rename (B.staged k B.last).staging (B.staged k B.last).target) (.ok ())
      { s.machine with tree := t }
    refine ⟨.rename_last hB hs.sound (hs.waiting _ (.head _)) hrename rfl hs.placed hlogs ?_,
      hgoOn ..⟩
    exact ⟨s.log, [], rfl, fun _ => List.not_mem_nil⟩
  · have hrule := Rule.of_refused (B := B) (p := some k) s (B.staged k B.last).staging
      (B.staged k B.last).target fault
    refine ⟨hrule, fail_works hB ?_ (hrule.sound hs.sound) fun _ => trivial⟩
    exact fun x hx => ⟨_, last_mem_allNames, List.mem_singleton.1 hx⟩

end

end Batches

end Wiring
