import Mathlib.Data.List.Nodup
import Mathlib.Data.Prod.Lex
import Mathlib.Data.String.Basic
import Wiring.Discovery.Project
import Wiring.Proofs.Disk.Run

/-!
# Which files a project is read from

The source files below each source directory are listed, the lists are put together and sorted by
path, and every path is read as often as it is listed. So a file is read once for each of the source
directories that contain it (`run_classes`): where source directories overlap, what a file
contributes to the types it names is there several times.
-/

namespace Wiring

open Disk

namespace Disk.Tree

/-- A tree as it can stand on a disk: each place is there once, and is led to by plain names. -/
structure IsSound (t : Tree) : Prop where
  distinct : (t.nodes.map (·.1)).Nodup
  plain : ∀ x ∈ t.nodes, ∀ s ∈ x.1, Path.IsPlain s

instance (t : Tree) : Decidable t.IsSound :=
  decidable_of_iff ((t.nodes.map (·.1)).Nodup ∧ ∀ x ∈ t.nodes, ∀ s ∈ x.1, Path.IsPlain s)
    ⟨fun ⟨h₁, h₂⟩ => ⟨h₁, h₂⟩, fun ⟨h₁, h₂⟩ => ⟨h₁, h₂⟩⟩

end Disk.Tree

namespace Discovery

/-! ## The order of paths -/

/-- What components are ordered by. -/
def orderKey (c : Component) : ℕ ×ₗ String :=
  toLex (componentKey c)

/-- Components that are ordered by the same are the same. -/
theorem orderKey_injective : Function.Injective orderKey := by
  intro a b h
  have hkey : componentKey a = componentKey b := toLex.injective h
  cases a <;> cases b <;> simp_all [componentKey]

/-- Components are compared at the first one that differs. -/
theorem componentsLe_cons {a b : Component} {as bs : List Component} :
    componentsLe (a :: as) (b :: bs) = true ↔
      orderKey a < orderKey b ∨ a = b ∧ componentsLe as bs = true := by
  rw [componentsLe]
  by_cases hab : a = b
  · simp [hab]
  · simp [hab, orderKey, Prod.Lex.toLex_lt_toLex]

/-- Of any two lists of components one comes before the other. -/
theorem componentsLe_total (as bs : List Component) :
    componentsLe as bs = true ∨ componentsLe bs as = true := by
  induction as generalizing bs with
  | nil => exact .inl rfl
  | cons a as ih =>
    cases bs with
    | nil => exact .inr rfl
    | cons b bs =>
      rw [componentsLe_cons, componentsLe_cons]
      rcases lt_trichotomy (orderKey a) (orderKey b) with hlt | heq | hgt
      · exact .inl (.inl hlt)
      · have hab := orderKey_injective heq
        exact (ih bs).imp (fun h => .inr ⟨hab, h⟩) fun h => .inr ⟨hab.symm, h⟩
      · exact .inr (.inl hgt)

/-- The order of components is transitive. -/
theorem componentsLe_trans {as bs cs : List Component} (h : componentsLe as bs = true)
    (h' : componentsLe bs cs = true) : componentsLe as cs = true := by
  induction as generalizing bs cs with
  | nil => rfl
  | cons a as ih =>
    cases bs with
    | nil => cases h
    | cons b bs =>
      cases cs with
      | nil => cases h'
      | cons c cs =>
        rw [componentsLe_cons] at h h' ⊢
        rcases h with hab | ⟨rfl, h⟩
        · rcases h' with hbc | ⟨rfl, -⟩
          · exact .inl (hab.trans hbc)
          · exact .inl hab
        · exact h'.imp id fun ⟨hac, h'⟩ => ⟨hac, ih h h'⟩

/-- Of any two paths one comes before the other. -/
theorem pathLe_total (p q : Path) : (pathLe p q || pathLe q p) = true :=
  Bool.or_eq_true_iff.2 (componentsLe_total p.components q.components)

/-- The order of paths is transitive. -/
theorem pathLe_trans (p q r : Path) (h : pathLe p q = true) (h' : pathLe q r = true) :
    pathLe p r = true :=
  componentsLe_trans h h'

/-- Sorted paths are in order. -/
theorem pairwise_mergeSort_pathLe (paths : List Path) :
    (paths.mergeSort pathLe).Pairwise fun p q => pathLe p q = true :=
  List.pairwise_mergeSort pathLe_trans pathLe_total paths

/-! ## What a directory contributes -/

/-- The path of a place at a directory or below it, seen from the path of the directory. -/
def pathIn (work : Place) (dir : Path) (g : Place) : Path :=
  (g.drop (dir.goal work).length).foldl Path.join dir

/-- A path is called a source file and not left out. -/
def isListed (exclude : List Path) (p : Path) : Bool :=
  isSourceName p && !isExcluded exclude p

/-- Whether a directory contributes what stands at a place: it is the directory or below it, is
called a source file, and is not left out. -/
def contributes (t : Tree) (exclude : List Path) (g : Place) (dir : Path) : Bool :=
  (t.at? g).isSome && (dir.goal t.work).isPrefixOf g && isListed exclude (pathIn t.work dir g)

section
variable {t : Tree} {m : Machine} {root dir : Path} {dirs exclude : List Path} {g : Place}

/-- The place of a directory and those below it. -/
def placesIn (t : Tree) (dir : Path) : List Place :=
  dir.goal t.work :: (t.nodes.map (·.1)).filter fun g =>
    (dir.goal t.work).length < g.length && (dir.goal t.work).isPrefixOf g

/-- The places of the source files that a directory contributes. -/
def sourcesIn (t : Tree) (exclude : List Path) (dir : Path) : List Place :=
  (placesIn t dir).filter fun g => isListed exclude (pathIn t.work dir g)

/-- Seen from its own path a directory has this path. -/
theorem pathIn_goal (work : Place) (dir : Path) : pathIn work dir (dir.goal work) = dir := by
  rw [pathIn, List.drop_length, List.foldl_nil]

/-- The path of a place below a directory leads to the place. -/
theorem goal_pathIn (ht : t.IsSound) (hg : g ∈ placesIn t dir) :
    (pathIn t.work dir g).goal t.work = g := by
  rcases List.mem_cons.1 hg with rfl | hg
  · rw [pathIn_goal]
  · obtain ⟨hmem, hbelow⟩ := List.mem_filter.1 hg
    obtain ⟨x, hx, rfl⟩ := List.mem_map.1 hmem
    rw [Bool.and_eq_true, List.isPrefixOf_iff_prefix] at hbelow
    obtain ⟨names, hnames⟩ := hbelow.2
    have hplain : ∀ s ∈ names, Path.IsPlain s := fun s hs =>
      ht.plain x hx s (hnames ▸ List.mem_append_right _ hs)
    rw [pathIn, ← hnames, List.drop_left, Path.goal_foldl_join dir hplain]

/-- A directory contributes no place twice. -/
theorem nodup_sourcesIn (ht : t.IsSound) : (sourcesIn t exclude dir).Nodup := by
  have hplaces : (placesIn t dir).Nodup := by
    refine List.nodup_cons.2 ⟨fun hmem => ?_, ht.distinct.sublist List.filter_sublist⟩
    simpa using (List.mem_filter.1 hmem).2
  exact hplaces.sublist List.filter_sublist

/-- Below the root everything that stands at a place is listed. -/
theorem at?_isSome_iff (hg : g ≠ []) : (t.at? g).isSome ↔ g ∈ t.nodes.map (·.1) := by
  obtain ⟨s, names, rfl⟩ := List.exists_cons_of_ne_nil hg
  rw [Tree.at?, List.lookup_isSome_iff, List.mem_map]
  · exact exists_congr fun x => and_congr_right fun _ => beq_iff_eq.trans eq_comm
  · nofun

/-- The places at a directory or below it are those that exist and that it is on the way to. -/
theorem mem_placesIn_iff (hdir : t.at? (dir.goal t.work) = some .directory) :
    g ∈ placesIn t dir ↔ (t.at? g).isSome ∧ dir.goal t.work <+: g := by
  rw [placesIn, List.mem_cons, List.mem_filter]
  constructor
  · rintro (rfl | ⟨hmem, hbelow⟩)
    · exact ⟨by rw [hdir]; rfl, List.prefix_rfl⟩
    · simp only [Bool.and_eq_true, decide_eq_true_eq, List.isPrefixOf_iff_prefix] at hbelow
      exact ⟨(at?_isSome_iff (List.ne_nil_of_length_pos (by omega))).2 hmem, hbelow.2⟩
  · rintro ⟨hat, hstart⟩
    by_cases hg : g = dir.goal t.work
    · exact .inl hg
    · have hlength : (dir.goal t.work).length < g.length :=
        Nat.lt_of_le_of_ne hstart.length_le fun h => hg (hstart.eq_of_length h).symm
      refine .inr ⟨(at?_isSome_iff (List.ne_nil_of_length_pos (by omega))).1 hat, ?_⟩
      simp only [Bool.and_eq_true, decide_eq_true_eq, List.isPrefixOf_iff_prefix]
      exact ⟨hlength, hstart⟩

/-- A place is among the sources of a directory exactly if the directory contributes it. -/
theorem mem_sourcesIn_iff (hdir : t.at? (dir.goal t.work) = some .directory) :
    g ∈ sourcesIn t exclude dir ↔ contributes t exclude g dir = true := by
  simp [sourcesIn, contributes, List.mem_filter, mem_placesIn_iff hdir]

/-- A directory contributes a place once or not at all. -/
theorem count_sourcesIn (ht : t.IsSound) (hdir : t.at? (dir.goal t.work) = some .directory) :
    (sourcesIn t exclude dir).count g = if contributes t exclude g dir then 1 else 0 := by
  rw [(nodup_sourcesIn ht).count]
  simp only [mem_sourcesIn_iff hdir]

/-! ## What is listed -/

/-- The paths of the source files that a directory contributes. -/
def pathsIn (t : Tree) (exclude : List Path) (dir : Path) : List Path :=
  (sourcesIn t exclude dir).map (pathIn t.work dir)

/-- The paths that a directory contributes lead to the places that it contributes. -/
theorem map_goal_pathsIn (ht : t.IsSound) :
    (pathsIn t exclude dir).map (Path.goal · t.work) = sourcesIn t exclude dir := by
  have hgoal : ∀ g ∈ sourcesIn t exclude dir, (pathIn t.work dir g).goal t.work = g := by
    intro g hg
    rw [sourcesIn, List.mem_filter] at hg
    exact goal_pathIn ht hg.1
  rw [pathsIn, List.map_map, Function.comp_def, List.map_congr_left hgoal, List.map_id']

/-- A directory contributes those of its paths that are listed. -/
theorem pathsIn_eq_filter (t : Tree) (exclude : List Path) (dir : Path) :
    pathsIn t exclude dir =
      ((placesIn t dir).map (pathIn t.work dir)).filter (isListed exclude) := by
  rw [pathsIn, sourcesIn, List.filter_map, Function.comp_def]

/-- A directory stands where its path leads to. -/
theorem at?_goal_of_find? (h : t.find? dir = some .directory) :
    t.place dir = .ok (dir.goal t.work) ∧ t.at? (dir.goal t.work) = some .directory := by
  rw [Tree.find?] at h
  split at h
  · next place hplace =>
    obtain ⟨-, rfl, -⟩ := Tree.place_eq_ok_iff.1 hplace
    exact ⟨hplace, h⟩
  · cases h

/-- Walking through a directory gives the paths of the places in it. -/
theorem walk_of_find? (h : t.find? dir = some .directory) :
    t.walk dir = .ok ((placesIn t dir).map (pathIn t.work dir)) := by
  obtain ⟨hplace, hat⟩ := at?_goal_of_find? h
  have henter : t.enter (dir.goal t.work) = .ok () := Tree.enter_eq_ok_iff.2 hat
  rw [Tree.walk, hplace, Result.ok_bind, henter, Result.ok_bind, placesIn, List.map_cons,
    pathIn_goal, List.filter_map, List.map_map, ← List.filterMap_eq_map, List.filterMap_filter]
  rfl

/-- Listing the sources of a directory gives the paths that it contributes. -/
theorem run_sourcePathsOf (h : m.tree.find? (root.join dir) = some .directory) :
    m.run (sourcePathsOf root exclude dir) = (.ok (pathsIn m.tree exclude (root.join dir)), m) := by
  have hisDirectory : m.run (Job.isDirectory (root.join dir)) = (true, m) := by
    simp [Job.isDirectory, Job.request, Machine.run, Machine.answer, h]
  have hwalk : m.run (Job.walk (root.join dir)) =
      (.ok ((placesIn m.tree (root.join dir)).map (pathIn m.tree.work (root.join dir))), m) := by
    simp [Job.walk, Job.request, Machine.run, Machine.answer, walk_of_find? h]
  rw [sourcePathsOf, run_bind, hisDirectory]
  simp only [Bool.not_true, Bool.false_eq_true, if_false]
  rw [run_bind, hwalk, pathsIn_eq_filter]
  rfl

/-- Listing the sources of what is no directory fails. -/
theorem run_sourcePathsOf_of_ne (h : m.tree.find? (root.join dir) ≠ some .directory) :
    m.run (sourcePathsOf root exclude dir) =
      (.error (.source (root.join dir) (some "source directory not found")), m) := by
  have hisDirectory : m.run (Job.isDirectory (root.join dir)) = (false, m) := by
    simp [Job.isDirectory, Job.request, Machine.run, Machine.answer, h]
  rw [sourcePathsOf, run_bind, hisDirectory]
  rfl

/-- The source files of all directories are listed, one directory after the other, if each of them
is a directory. -/
theorem run_sourcePaths (m : Machine) (root : Path) (dirs exclude : List Path) :
    (∃ dir ∈ dirs, m.tree.find? (root.join dir) ≠ some .directory ∧
      m.run (sourcePaths root exclude dirs) =
        (.error (.source (root.join dir) (some "source directory not found")), m)) ∨
    (∀ dir ∈ dirs, m.tree.find? (root.join dir) = some .directory) ∧
      m.run (sourcePaths root exclude dirs) =
        (.ok (dirs.flatMap fun dir => pathsIn m.tree exclude (root.join dir)), m) := by
  induction dirs with
  | nil => exact .inr ⟨nofun, rfl⟩
  | cons dir dirs ih =>
    rw [sourcePaths]
    by_cases hdir : m.tree.find? (root.join dir) = some .directory
    · rw [run_bind, run_sourcePathsOf hdir]
      rcases ih with ⟨dir', hmem, hne, hrun⟩ | ⟨hall, hrun⟩
      · refine .inl ⟨dir', .tail _ hmem, hne, ?_⟩
        simp only []
        rw [run_bind, hrun]
        rfl
      · refine .inr ⟨List.forall_mem_cons.2 ⟨hdir, hall⟩, ?_⟩
        simp only []
        rw [run_bind, hrun]
        rfl
    · refine .inl ⟨dir, .head _, hdir, ?_⟩
      rw [run_bind, run_sourcePathsOf_of_ne hdir]
      rfl

/-- A place is listed as often as directories contribute it. -/
theorem count_flatMap_pathsIn (ht : t.IsSound)
    (hdirs : ∀ dir ∈ dirs, t.find? (root.join dir) = some .directory) :
    ((dirs.flatMap fun dir => pathsIn t exclude (root.join dir)).map (Path.goal · t.work)).count g =
      dirs.countP fun dir => contributes t exclude g (root.join dir) := by
  induction dirs with
  | nil => rfl
  | cons dir dirs ih =>
    obtain ⟨hdir, hdirs⟩ := List.forall_mem_cons.1 hdirs
    rw [List.flatMap_cons, List.map_append, List.count_append, map_goal_pathsIn ht,
      count_sourcesIn ht (at?_goal_of_find? hdir).2, ih hdirs, List.countP_cons, Nat.add_comm]

/-! ## What is read -/

/-- The classes that source files declare, read one after the other. -/
def classesOf (files : List Path) : Job (Except CompileError (List ClassDescriptor)) := do
  match ← indexFiles {} files with
  | .error e => return .error e
  | .ok x => return .ok x.descriptors

/-- In a list of paths, every file that some directory contributes is there exactly once, in the
order of paths. -/
structure ReadsOnce (t : Tree) (root : Path) (dirs exclude files : List Path) : Prop where
  sorted : files.Pairwise fun p q => pathLe p q = true
  distinct : (files.map (Path.goal · t.work)).Nodup
  complete : ∀ g, g ∈ files.map (Path.goal · t.work) ↔
    ∃ dir ∈ dirs, contributes t exclude g (root.join dir) = true

/-- No two of some directories contribute the same file. -/
def Apart (t : Tree) (root : Path) (exclude dirs : List Path) : Prop :=
  dirs.Pairwise fun d d' => ∀ g,
    ¬ (contributes t exclude g (root.join d) = true ∧ contributes t exclude g (root.join d') = true)

/-- No two of some paths have a place in common just if no place has two of them. -/
theorem pairwise_iff_countP_le_one {p : Place → Path → Bool} :
    (dirs.Pairwise fun d d' => ∀ g, ¬ (p g d = true ∧ p g d' = true)) ↔
      ∀ g, dirs.countP (p g) ≤ 1 := by
  induction dirs with
  | nil => simp
  | cons dir dirs ih =>
    rw [List.pairwise_cons, ih]
    constructor
    · rintro ⟨hdir, hdirs⟩ g
      rw [List.countP_cons]
      split
      · next hg =>
        have hzero : dirs.countP (p g) = 0 :=
          List.countP_eq_zero.2 fun d hd hdg => hdir d hd g ⟨hg, hdg⟩
        omega
      · exact hdirs g
    · intro h
      refine ⟨fun d hd g ⟨hg, hdg⟩ => ?_, fun g => ?_⟩
      · have hpos : 0 < dirs.countP (p g) := List.countP_pos_iff.2 ⟨d, hd, hdg⟩
        have hle := h g
        rw [List.countP_cons, if_pos hg] at hle
        omega
      · have hle := h g
        rw [List.countP_cons] at hle
        omega

/-- Where all directories are there, the classes are those of the sorted paths that they contribute.
-/
theorem run_classes_of_find?
    (hdirs : ∀ dir ∈ dirs, m.tree.find? (root.join dir) = some .directory) :
    m.run (classes root dirs exclude) = m.run (classesOf
      ((dirs.flatMap fun dir => pathsIn m.tree exclude (root.join dir)).mergeSort pathLe)) := by
  rcases run_sourcePaths m root dirs exclude with ⟨dir, hmem, hne, -⟩ | ⟨-, hrun⟩
  · exact absurd (hdirs dir hmem) hne
  · rw [classes, run_bind, hrun]
    rfl

/-- The classes of a project are those of its source files in the order of their paths, each read
once for every source directory that contributes it. So each file is read once just if no two
directories contribute the same file. If a source directory is missing, nothing is read. -/
theorem run_classes (m : Machine) (hm : m.tree.IsSound) (root : Path) (dirs exclude : List Path) :
    (∃ dir ∈ dirs, m.tree.find? (root.join dir) ≠ some .directory ∧
      m.run (classes root dirs exclude) =
        (.error (.source (root.join dir) (some "source directory not found")), m)) ∨
    ∃ files, m.run (classes root dirs exclude) = m.run (classesOf files) ∧
      files.Pairwise (fun p q => pathLe p q = true) ∧
      (∀ g, (files.map (Path.goal · m.tree.work)).count g =
        dirs.countP fun dir => contributes m.tree exclude g (root.join dir)) ∧
      (ReadsOnce m.tree root dirs exclude files ↔ Apart m.tree root exclude dirs) := by
  rcases run_sourcePaths m root dirs exclude with ⟨dir, hmem, hne, hrun⟩ | ⟨hdirs, -⟩
  · refine .inl ⟨dir, hmem, hne, ?_⟩
    rw [classes, run_bind, hrun]
    rfl
  · let paths := dirs.flatMap fun dir => pathsIn m.tree exclude (root.join dir)
    have hcount (g : Place) : ((paths.mergeSort pathLe).map (Path.goal · m.tree.work)).count g =
        dirs.countP fun dir => contributes m.tree exclude g (root.join dir) := by
      rw [((List.mergeSort_perm paths pathLe).map (Path.goal · m.tree.work)).count_eq]
      exact count_flatMap_pathsIn hm hdirs
    have hsorted := pairwise_mergeSort_pathLe paths
    refine .inr ⟨paths.mergeSort pathLe, run_classes_of_find? hdirs, hsorted, hcount, ?_⟩
    rw [Apart, pairwise_iff_countP_le_one]
    constructor
    · intro h g
      rw [← hcount]
      exact List.nodup_iff_count_le_one.1 h.distinct g
    · intro h
      refine ⟨hsorted, List.nodup_iff_count_le_one.2 fun g => ?_, fun g => ?_⟩
      · rw [hcount]
        exact h g
      · rw [← List.count_pos_iff, hcount, List.countP_pos_iff]

/-- A project with one type, in a directory below the source directory. -/
def webProject : Machine where
  tree := {
    work := []
    nodes := [(["proj"], .directory), (["proj", "src"], .directory),
      (["proj", "src", "web"], .directory),
      (["proj", "src", "web", "mod.rs"], .file
        "pub struct Web; impl Web { pub fn index() -> String { todo!() } }")] }

/-- A source file below both directories is listed twice. -/
theorem run_classes_webProject : webProject.tree.IsSound ∧ ∃ files,
    webProject.run (classes "proj" ["src", "src/web"] []) = webProject.run (classesOf files) ∧
    files.Pairwise (fun p q => pathLe p q = true) ∧
    (files.map (Path.goal · webProject.tree.work)).count ["proj", "src", "web", "mod.rs"] = 2 := by
  have hm : webProject.tree.IsSound := by decide
  have hdirs : ∀ dir ∈ ["src", "src/web"],
      webProject.tree.find? (Path.join "proj" dir) = some .directory := by decide
  rcases run_classes webProject hm "proj" ["src", "src/web"] [] with
    ⟨dir, hmem, hne, -⟩ | ⟨files, hrun, hsorted, hcount, -⟩
  · exact absurd (hdirs dir hmem) hne
  · exact ⟨hm, files, hrun, hsorted, (hcount _).trans (by decide)⟩

/-- The methods of the types that a project was found to declare. -/
def methodNames (classes : Except CompileError (List ClassDescriptor)) :
    Option (List (List String)) :=
  classes.toOption.map fun cs => cs.map fun c => c.methods.map (·.name)

/-- Where a source directory is inside another one, the methods of a type are found twice. -/
theorem exists_methodNames_classes_ne :
    ReadsOnce webProject.tree "proj" ["src", "src/web"] [] ["proj/src/web/mod.rs"] ∧
    methodNames (webProject.run (classesOf ["proj/src/web/mod.rs"])).1 = some [["index"]] ∧
    methodNames (webProject.run (classes "proj" ["src", "src/web"] [])).1 =
      some [["index", "index"]] := by
  have hdirs : ∀ dir ∈ ["src", "src/web"],
      webProject.tree.find? (Path.join "proj" dir) = some .directory := by decide
  have hsources : ∀ dir ∈ ["src", "src/web"],
      sourcesIn webProject.tree [] (Path.join "proj" dir) = [["proj", "src", "web", "mod.rs"]] := by
    decide
  have hpaths : ["src", "src/web"].flatMap
      (fun dir => pathsIn webProject.tree [] (Path.join "proj" dir)) =
        ["proj/src/web/mod.rs", "proj/src/web/mod.rs"] := by decide
  have hgoals : ["proj/src/web/mod.rs"].map (Path.goal · webProject.tree.work) =
      [["proj", "src", "web", "mod.rs"]] := by decide
  have hcomplete (g : Place) : g ∈ ["proj/src/web/mod.rs"].map (Path.goal · webProject.tree.work) ↔
      ∃ dir ∈ ["src", "src/web"],
        contributes webProject.tree [] g (Path.join "proj" dir) = true := by
    rw [hgoals]
    constructor
    · intro hg
      have hmem : g ∈ sourcesIn webProject.tree [] (Path.join "proj" "src") := by
        rwa [hsources "src" (.head _)]
      exact ⟨"src", .head _, (mem_sourcesIn_iff (at?_goal_of_find? (hdirs _ (.head _))).2).1 hmem⟩
    · rintro ⟨dir, hdir, hg⟩
      have hmem := (mem_sourcesIn_iff (at?_goal_of_find? (hdirs dir hdir)).2).2 hg
      rwa [hsources dir hdir] at hmem
  refine ⟨⟨by decide, by decide, hcomplete⟩, by decide +kernel, ?_⟩
  rw [run_classes_of_find? hdirs, hpaths, List.mergeSort_of_pairwise (by decide)]
  decide +kernel

end

end Discovery

end Wiring
