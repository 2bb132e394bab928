import Mathlib.Data.Set.Insert
import Wiring.Proofs.Disk.Spelling
import Wiring.Proofs.Lookup
import Wiring.Proofs.Result

/-!
# What changes in a file tree

A path that leads anywhere leads to its goal (`place_eq_ok_iff`), so what is done with a file can be
told from the goals of the paths: writing, removing, moving files and making directories leave all
files at other goals as they are, all directories, and the working directory (`Changes`). A file
that can be read can be read afterwards, if nothing was done at its goal (`Changes.read`). Of a
place where something was done it can still hold that no file stands there that did not before
(`NothingNew`). What is missing at a path may be there all the same, unless the path never leads up
(`Rooted.vacant_of_remove`).
-/

namespace Wiring.Disk.Tree

section
variable {t t' t'' : Tree} {g place : Place} {p q : Path} {text : String}

@[simp] theorem work_put (t : Tree) (place : Place) (n : Node) :
    (t.put place n).work = t.work := rfl
@[simp] theorem work_erase (t : Tree) (place : Place) : (t.erase place).work = t.work := rfl

/-- The root is a directory. -/
theorem ne_nil_of_at? (h : t.at? place ≠ some .directory) : place ≠ [] := by
  rintro rfl
  exact h rfl

/-- What is put at a place stands there, and all else where it stood. -/
theorem at?_put (h : place ≠ []) (n : Node) (g : Place) :
    (t.put place n).at? g = if g = place then some n else t.at? g := by
  cases g with
  | nil => rw [if_neg h.symm]; rfl
  | cons s g => exact lookup_cons_filter (s :: g) place n t.nodes

/-- What is erased is gone, and all else stands where it stood. -/
theorem at?_erase (h : place ≠ []) (g : Place) :
    (t.erase place).at? g = if g = place then none else t.at? g := by
  cases g with
  | nil => rw [if_neg h.symm]; rfl
  | cons s g =>
    split
    · next hg =>
      subst hg
      exact lookup_filter_self (s :: g) t.nodes
    · next hg => exact lookup_filter_ne hg t.nodes

/-- Erasing makes no directory. -/
theorem at?_erase_ne_directory (h : t.at? place ≠ some .directory)
    (hg : t.at? g ≠ some .directory) :
    (t.erase place).at? g ≠ some .directory := by
  rw [at?_erase (ne_nil_of_at? h)]
  split
  · nofun
  · exact hg

/-! ## Where paths lead -/

/-- A place that is missing holds nothing. -/
theorem at?_of_enter (h : t.enter place = .error .missing) : t.at? place = none := by
  rw [enter] at h
  split at h
  · cases h
  · cases h
  · assumption

/-- A directory can be entered, and nothing else. -/
theorem enter_eq_ok_iff {u : Unit} : t.enter place = .ok u ↔ t.at? place = some .directory := by
  rw [enter]
  split <;> simp_all

/-- Components lead from a place to where they are followed to. -/
theorem placeOf_eq_ok {start : Place} {cs : List Component} (h : t.placeOf start cs = .ok g) :
    g = cs.foldl Path.follow start := by
  induction cs generalizing start with
  | nil => exact (Except.ok.inj h).symm
  | cons c rest ih =>
    cases c with
    | root => exact ih h
    | current | parent =>
      obtain ⟨_, -, h⟩ := Result.bind_eq_ok.1 h
      exact ih h
    | name s =>
      obtain ⟨_, -, h⟩ := Result.bind_eq_ok.1 h
      split at h
      · exact ih h
      · cases h

/-- A path leads to its goal: it can be asked for, and the directories on the way are there. -/
def Reaches (t : Tree) (p : Path) : Prop :=
  p ≠ "" ∧ isAskable p = true ∧ t.placeOf t.work p.components = .ok (p.goal t.work)

/-- A path has a place if it leads there, and does not take a file for a directory. -/
theorem place_eq_ok_iff : t.place p = .ok g ↔ t.Reaches p ∧ g = p.goal t.work ∧
    (saysDirectory p = true → ∀ text, t.at? g ≠ some (.file text)) := by
  constructor
  · intro h
    simp only [place] at h
    split at h
    · cases h
    next hempty =>
    split at h
    · cases h
    next haskable =>
    obtain ⟨g', hplace, h⟩ := Result.bind_eq_ok.1 h
    have hgoal : g' = p.goal t.work := placeOf_eq_ok hplace
    subst hgoal
    have hreaches : t.Reaches p := ⟨hempty, by simpa using haskable, hplace⟩
    split at h
    · split at h
      · cases h
      next hfile =>
      cases h
      exact ⟨hreaches, rfl, fun _ text htext => hfile text htext⟩
    next hslash =>
    cases h
    exact ⟨hreaches, rfl, fun h => absurd h hslash⟩
  · rintro ⟨⟨hempty, haskable, hplace⟩, rfl, hfile⟩
    simp only [place, if_neg hempty, haskable, hplace, Result.ok_bind, Bool.not_true,
      Bool.false_eq_true, if_false]
    split
    · next hslash =>
      split
      · next text hat => exact absurd hat (hfile hslash text)
      · rfl
    · rfl

/-- A file is read if its path leads to it. -/
theorem read_eq_ok_iff : t.read p = .ok text ↔
    t.Reaches p ∧ saysDirectory p = false ∧ t.at? (p.goal t.work) = some (.file text) := by
  constructor
  · intro h
    obtain ⟨g, hplace, h⟩ := Result.bind_eq_ok.1 h
    obtain ⟨hreaches, rfl, hslash⟩ := place_eq_ok_iff.1 hplace
    split at h
    · next text' hat =>
      cases h
      exact ⟨hreaches, Bool.eq_false_iff.2 fun h => hslash h text hat, hat⟩
    · cases h
    · cases h
  · rintro ⟨hreaches, hslash, hat⟩
    have hplace : t.place p = .ok (p.goal t.work) :=
      place_eq_ok_iff.2 ⟨hreaches, rfl, fun h => by rw [hslash] at h; cases h⟩
    rw [read, hplace, Result.ok_bind, hat]
    rfl

/-- What can be written is a file at the goal of the path. -/
theorem of_write_eq_ok (h : t.write p text = .ok t') : t.Reaches p ∧ saysDirectory p = false ∧
    t.at? (p.goal t.work) ≠ some .directory ∧ t' = t.put (p.goal t.work) (.file text) := by
  obtain ⟨g, hplace, h⟩ := Result.bind_eq_ok.1 h
  obtain ⟨hreaches, rfl, hslash⟩ := place_eq_ok_iff.1 hplace
  split at h
  · cases h
  · next old hat =>
    cases h
    have hfalse : saysDirectory p = false := Bool.eq_false_iff.2 fun h => hslash h old hat
    exact ⟨hreaches, hfalse, by rw [hat]; nofun, rfl⟩
  · next hat =>
    split at h
    · cases h
    · next hfalse =>
      cases h
      exact ⟨hreaches, Bool.eq_false_iff.2 hfalse, by rw [hat]; nofun, rfl⟩

/-- What can be removed is the file at the goal of the path. -/
theorem of_remove_eq_ok (h : t.remove p = .ok t') :
    ∃ text, t.at? (p.goal t.work) = some (.file text) ∧ t' = t.erase (p.goal t.work) := by
  obtain ⟨g, hplace, h⟩ := Result.bind_eq_ok.1 h
  obtain ⟨-, rfl, -⟩ := place_eq_ok_iff.1 hplace
  split at h
  · next text hat =>
    cases h
    exact ⟨text, hat, rfl⟩
  · cases h
  · cases h

/-- A file that can be read can be removed. -/
theorem remove_of_read (h : t.read p = .ok text) : t.remove p = .ok (t.erase (p.goal t.work)) := by
  obtain ⟨hreaches, hslash, hat⟩ := read_eq_ok_iff.1 h
  have hplace : t.place p = .ok (p.goal t.work) :=
    place_eq_ok_iff.2 ⟨hreaches, rfl, fun h => by rw [hslash] at h; cases h⟩
  rw [remove, hplace, Result.ok_bind, hat]
  rfl

/-- What can be moved is a file that can be read, to the goal of the other path. -/
theorem of_rename_eq_ok (h : t.rename p q = .ok t') :
    ∃ text, t.read p = .ok text ∧ t.Reaches q ∧ saysDirectory q = false ∧
      t.at? (q.goal t.work) ≠ some .directory ∧
        t' = (t.erase (p.goal t.work)).put (q.goal t.work) (.file text) := by
  obtain ⟨g, hplace, h⟩ := Result.bind_eq_ok.1 h
  obtain ⟨hreaches, rfl, hslash⟩ := place_eq_ok_iff.1 hplace
  split at h
  · next text hat =>
    have hread : t.read p = .ok text :=
      read_eq_ok_iff.2 ⟨hreaches, Bool.eq_false_iff.2 fun h => hslash h text hat, hat⟩
    obtain ⟨g, hplace, h⟩ := Result.bind_eq_ok.1 h
    obtain ⟨hreaches, rfl, -⟩ := place_eq_ok_iff.1 hplace
    split at h
    · cases h
    · next hdirectory =>
      split at h
      · cases h
      · next hfalse =>
        cases h
        exact ⟨text, hread, hreaches, Bool.eq_false_iff.2 hfalse, hdirectory, rfl⟩
  · cases h
  · cases h

/-! ## Where paths are seen from -/

/-- The tree with another working directory. -/
def seenFrom (t : Tree) (work : Place) : Tree :=
  { t with work }

@[simp] theorem work_seenFrom (t : Tree) (work : Place) : (t.seenFrom work).work = work := rfl

@[simp] theorem at?_seenFrom (t : Tree) (work g : Place) : (t.seenFrom work).at? g = t.at? g := by
  cases g <;> rfl

@[simp] theorem enter_seenFrom (t : Tree) (work g : Place) :
    (t.seenFrom work).enter g = t.enter g := by
  rw [enter, enter, at?_seenFrom]

/-- The way from a place on does not depend on the working directory. -/
@[simp] theorem placeOf_seenFrom (t : Tree) (work start : Place) (cs : List Component) :
    (t.seenFrom work).placeOf start cs = t.placeOf start cs := by
  induction cs generalizing start with
  | nil => rfl
  | cons c rest ih => cases c <;> simp [placeOf, ih]

/-- An absolute path leads to the same place from every working directory. -/
theorem place_seenFrom (hp : p.isAbsolute = true) (work : Place) :
    (t.seenFrom work).place p = t.place p := by
  have hplace : (t.seenFrom work).placeOf work p.components = t.placeOf t.work p.components := by
    rw [placeOf_seenFrom, Path.components_of_isAbsolute hp, placeOf, placeOf]
  simp only [place, work_seenFrom, hplace, at?_seenFrom]

/-- An absolute path has the same text from wherever it is read. -/
theorem read_seenFrom (hp : p.isAbsolute = true) (work : Place) :
    (t.seenFrom work).read p = t.read p := by
  simp only [read, place_seenFrom hp, at?_seenFrom]

/-! ## What stays as it is -/

/-- Only files at some places are others, no directory is gone, and the working directory is the
same. -/
structure Changes (places : Set Place) (t t' : Tree) : Prop where
  work : t'.work = t.work
  file : ∀ g ∉ places, ∀ text, t'.at? g = some (.file text) ↔ t.at? g = some (.file text)
  directory : ∀ g, t.at? g = some .directory → t'.at? g = some .directory

namespace Changes

variable {places places' : Set Place}

/-- A tree changes nowhere by staying as it is. -/
theorem refl (t : Tree) : Changes places t t :=
  ⟨rfl, fun _ _ _ => .rfl, fun _ h => h⟩

/-- Changes may follow changes in the same places. -/
theorem trans (h : Changes places t t') (h' : Changes places t' t'') : Changes places t t'' :=
  ⟨h'.work.trans h.work, fun g hg text => (h'.file g hg text).trans (h.file g hg text),
    fun g hg => h'.directory g (h.directory g hg)⟩

/-- Changes in some places are changes in more places. -/
theorem mono (h : Changes places t t') (hsub : places ⊆ places') : Changes places' t t' :=
  ⟨h.work, fun g hg => h.file g fun hmem => hg (hsub hmem), h.directory⟩

/-- Ways that are there stay there. -/
theorem placeOf (h : Changes places t t') {start : Place} {cs : List Component}
    (hplace : t.placeOf start cs = .ok g) : t'.placeOf start cs = .ok g := by
  induction cs generalizing start with
  | nil => exact hplace
  | cons c rest ih =>
    have henter {u : Unit} (henter : t.enter start = .ok u) : t'.enter start = .ok u :=
      enter_eq_ok_iff.2 (h.directory start (enter_eq_ok_iff.1 henter))
    cases c with
    | root => exact ih hplace
    | current | parent =>
      obtain ⟨u, hu, hplace⟩ := Result.bind_eq_ok.1 hplace
      rw [Tree.placeOf, henter hu, Result.ok_bind]
      exact ih hplace
    | name s =>
      obtain ⟨u, hu, hplace⟩ := Result.bind_eq_ok.1 hplace
      rw [Tree.placeOf, henter hu, Result.ok_bind]
      split at hplace
      · next hs =>
        rw [if_pos hs]
        exact ih hplace
      · cases hplace

/-- A path still leads to its goal. -/
theorem reaches (h : Changes places t t') (hp : t.Reaches p) : t'.Reaches p := by
  obtain ⟨hempty, haskable, hplace⟩ := hp
  refine ⟨hempty, haskable, ?_⟩
  rw [h.work]
  exact h.placeOf hplace

/-- What is read from a path stays the same if no file at its goal is another. -/
theorem read (h : Changes places t t') (hp : p.goal t.work ∉ places) (hread : t.read p = .ok text) :
    t'.read p = .ok text := by
  obtain ⟨hreaches, hslash, hat⟩ := read_eq_ok_iff.1 hread
  refine read_eq_ok_iff.2 ⟨h.reaches hreaches, hslash, ?_⟩
  rw [h.work]
  exact (h.file _ hp text).2 hat

/-- Putting a file where no directory is changes this place. -/
theorem put_file (h : t.at? place ≠ some .directory) (text : String) :
    Changes {place} t (t.put place (.file text)) := by
  have hne := ne_nil_of_at? h
  refine ⟨rfl, ?_, ?_⟩
  · intro g hg text'
    have hgne : g ≠ place := hg
    rw [at?_put hne, if_neg hgne]
  · intro g hg
    have hgne : g ≠ place := by
      rintro rfl
      exact h hg
    rw [at?_put hne, if_neg hgne, hg]

/-- Erasing what is no directory changes this place. -/
theorem erase (h : t.at? place ≠ some .directory) : Changes {place} t (t.erase place) := by
  have hne := ne_nil_of_at? h
  refine ⟨rfl, ?_, ?_⟩
  · intro g hg text'
    have hgne : g ≠ place := hg
    rw [at?_erase hne, if_neg hgne]
  · intro g hg
    have hgne : g ≠ place := by
      rintro rfl
      exact h hg
    rw [at?_erase hne, if_neg hgne, hg]

/-- Putting a directory where nothing is changes no file. -/
theorem put_directory (h : t.at? place = none) : Changes ∅ t (t.put place .directory) := by
  have hne : place ≠ [] := ne_nil_of_at? (by rw [h]; nofun)
  refine ⟨rfl, ?_, ?_⟩
  · intro g _ text
    rw [at?_put hne]
    split
    · next hg => simp [hg, h]
    · rfl
  · intro g hg
    rw [at?_put hne]
    split
    · rfl
    · exact hg

/-- Writing changes the file at the goal of the path. -/
theorem write (h : t.write p text = .ok t') : Changes {p.goal t.work} t t' := by
  obtain ⟨-, -, hat, rfl⟩ := of_write_eq_ok h
  exact put_file hat text

/-- Removing changes the file at the goal of the path. -/
theorem remove (h : t.remove p = .ok t') : Changes {p.goal t.work} t t' := by
  obtain ⟨text, hat, rfl⟩ := of_remove_eq_ok h
  exact erase (by rw [hat]; nofun)

/-- Moving changes the files at the goals of both paths. -/
theorem rename (h : t.rename p q = .ok t') : Changes {p.goal t.work, q.goal t.work} t t' := by
  obtain ⟨text, hread, -, -, hat, rfl⟩ := of_rename_eq_ok h
  obtain ⟨-, -, hthere⟩ := read_eq_ok_iff.1 hread
  have hfile : t.at? (p.goal t.work) ≠ some .directory := by rw [hthere]; nofun
  have hput := put_file (at?_erase_ne_directory hfile hat) text
  exact ((erase hfile).mono (by simp)).trans (hput.mono (by simp))

/-- Making directories along components changes no file. -/
theorem createFrom (t : Tree) (start : Place) (cs : List Component) :
    Changes ∅ t (t.createFrom start cs).1 := by
  induction cs generalizing t start with
  | nil => exact refl t
  | cons c rest ih =>
    cases c with
    | root => exact ih t []
    | current => exact ih t start
    | parent =>
      rw [Tree.createFrom]
      split
      · exact ih t start.dropLast
      · exact refl t
    | name s =>
      rw [Tree.createFrom]
      split
      · exact refl t
      · split
        · exact ih t _
        · exact refl t
        · next hat =>
          split
          · exact (put_directory hat).trans (ih _ _)
          · exact refl t

/-- Making directories changes no file. -/
theorem createDirs (t : Tree) (p : Path) : Changes ∅ t (t.createDirs p).1 := by
  rw [Tree.createDirs]
  split
  · exact createFrom t t.work p.components
  · exact refl t

end Changes

/-- No file stands at a place. -/
def Vacant (t : Tree) (g : Place) : Prop :=
  ∀ text, t.at? g ≠ some (.file text)

/-- Files that can be read with their texts. -/
def Holds (t : Tree) (files : List (Path × String)) : Prop :=
  ∀ x ∈ files, t.read x.1 = .ok x.2

/-- The places that the paths of files lead to from the working directory. -/
abbrev goals (work : Place) (files : List (Path × String)) : List Place :=
  files.map (·.1.goal work)

/-- Nothing is read where no file stands. -/
theorem Vacant.read_ne_ok (h : t.Vacant (p.goal t.work)) : t.read p ≠ .ok text :=
  fun hread => h text (read_eq_ok_iff.1 hread).2.2

/-- Where no file stands and nothing changes no file stands afterwards. -/
theorem Changes.vacant {places : Set Place} (h : Changes places t t') (hg : g ∉ places)
    (hvacant : t.Vacant g) : t'.Vacant g :=
  fun text hat => hvacant text ((h.file g hg text).1 hat)

/-- Files that do not change can be read afterwards. -/
theorem Changes.holds {places : Set Place} {files : List (Path × String)}
    (h : Changes places t t') (hfiles : ∀ g ∈ goals t.work files, g ∉ places)
    (hholds : t.Holds files) :
    t'.Holds files :=
  fun x hx => h.read (hfiles _ (List.mem_map_of_mem hx)) (hholds x hx)

/-- What was written is read back. -/
theorem read_of_write (h : t.write p text = .ok t') : t'.read p = .ok text := by
  obtain ⟨hreaches, hslash, hat, rfl⟩ := of_write_eq_ok h
  refine read_eq_ok_iff.2 ⟨(Changes.put_file hat text).reaches hreaches, hslash, ?_⟩
  rw [work_put, at?_put (ne_nil_of_at? hat), if_pos rfl]

/-- What was moved is read at its new path. -/
theorem read_of_rename (h : t.rename p q = .ok t') (hread : t.read p = .ok text) :
    t'.read q = .ok text := by
  have hchanges := Changes.rename h
  obtain ⟨text', hread', hreaches, hslash, hat, rfl⟩ := of_rename_eq_ok h
  cases hread.symm.trans hread'
  refine read_eq_ok_iff.2 ⟨hchanges.reaches hreaches, hslash, ?_⟩
  rw [work_put, work_erase, at?_put (ne_nil_of_at? hat), if_pos rfl]

/-- What was written stands at the goal of the path. -/
theorem at?_of_write (h : t.write p text = .ok t') :
    t'.at? (p.goal t.work) = some (.file text) := by
  rw [← (Changes.write h).work]
  exact (read_eq_ok_iff.1 (read_of_write h)).2.2

/-- A file that was moved stands at its new place. -/
theorem at?_of_rename (h : t.rename p q = .ok t')
    (hat : t.at? (p.goal t.work) = some (.file text)) :
    t'.at? (q.goal t.work) = some (.file text) := by
  obtain ⟨text', hread, -⟩ := of_rename_eq_ok h
  have hat' := (read_eq_ok_iff.1 hread).2.2
  rw [hat] at hat'
  cases hat'
  rw [← (Changes.rename h).work]
  exact (read_eq_ok_iff.1 (read_of_rename h hread)).2.2

/-- A file that was moved is gone from where it stood. -/
theorem at?_source_of_rename (h : t.rename p q = .ok t') (hne : p.goal t.work ≠ q.goal t.work) :
    t'.at? (p.goal t.work) = none := by
  obtain ⟨text, hread, -, -, hat, rfl⟩ := of_rename_eq_ok h
  have hthere := (read_eq_ok_iff.1 hread).2.2
  have hnotRoot : q.goal t.work ≠ [] := by
    intro hnil
    rw [hnil] at hat
    exact hat rfl
  rw [at?_put hnotRoot, if_neg hne, at?_erase (ne_nil_of_at? (by rw [hthere]; nofun)), if_pos rfl]

/-- A file that was removed is gone. -/
theorem at?_of_remove (h : t.remove p = .ok t') : t'.at? (p.goal t.work) = none := by
  obtain ⟨text, hat, rfl⟩ := of_remove_eq_ok h
  rw [at?_erase (ne_nil_of_at? (by rw [hat]; nofun)), if_pos rfl]

/-! ## What is missing -/

/-- A tree as it stands on a disk: what stands in it stands in a directory, and the working
directory is no file. It may be gone. -/
structure Rooted (t : Tree) : Prop where
  above : ∀ g s, t.at? (g ++ [s]) ≠ none → t.at? g = some .directory
  work : t.Vacant t.work

namespace Rooted

/-- Nothing stands below a place where nothing stands. -/
theorem at?_append (ht : t.Rooted) (h : t.at? g = none) (names : List String) :
    t.at? (g ++ names) = none := by
  induction names generalizing g with
  | nil => rwa [List.append_nil]
  | cons s names ih =>
    rw [List.append_cons]
    refine ih (Classical.byContradiction fun hthere => ?_)
    rw [ht.above g s hthere] at h
    cases h

/-- Where a way down is missing, nothing stands at its end. -/
theorem at?_of_placeOf (ht : t.Rooted) {start : Place} {names : List String}
    (h : t.placeOf start (names.map .name) = .error .missing) : t.at? (start ++ names) = none := by
  induction names generalizing start with
  | nil => cases h
  | cons s names ih =>
    rw [List.map_cons, placeOf] at h
    rcases Result.bind_eq_error.1 h with henter | ⟨_, -, h⟩
    · exact ht.at?_append (at?_of_enter henter) _
    · split at h
      · rw [List.append_cons]
        exact ih h
      · cases h

/-- Where the way of a path that never leads up is missing, nothing stands at its goal. -/
theorem at?_goal (ht : t.Rooted) {names : List String} (hnames : p.trail = names.map .name)
    (h : t.placeOf t.work p.components = .error .missing) : t.at? (p.goal t.work) = none := by
  rw [Path.goal_of_trail hnames]
  cases hp : p.isAbsolute with
  | true =>
    rw [Path.components_of_isAbsolute hp, hnames, placeOf] at h
    exact ht.at?_of_placeOf h
  | false =>
    rw [Path.components_of_relative hp, hnames] at h
    split at h
    · rw [placeOf] at h
      rcases Result.bind_eq_error.1 h with henter | ⟨_, -, h⟩
      · exact ht.at?_append (at?_of_enter henter) names
      · exact ht.at?_of_placeOf h
    · exact ht.at?_of_placeOf h

end Rooted

/-- A path is missing because it is empty or because its way is missing. -/
theorem of_place_eq_missing (h : t.place p = .error .missing) :
    p = "" ∨ t.placeOf t.work p.components = .error .missing := by
  simp only [place] at h
  split at h
  · next hempty => exact .inl hempty
  · split at h
    · cases h
    · rcases Result.bind_eq_error.1 h with hmissing | ⟨_, -, h⟩
      · exact .inr hmissing
      · split at h
        · split at h <;> cases h
        · cases h

/-- Where nothing stands no file stands. -/
theorem vacant_of_at? (h : t.at? g = none) : t.Vacant g := by
  intro text hat
  rw [h] at hat
  cases hat

/-- What is missing at the end of a way that never leads up is not there. -/
theorem Rooted.vacant_of_remove (ht : t.Rooted) (hp : .parent ∉ p.trail)
    (h : t.remove p = .error .missing) : t.Vacant (p.goal t.work) := by
  obtain ⟨names, hnames⟩ := Path.exists_trail_eq hp
  rcases Result.bind_eq_error.1 h with hplace | ⟨g, hplace, h⟩
  · rcases of_place_eq_missing hplace with rfl | hmissing
    · have hempty : Path.components "" = [] := by decide
      rw [Path.goal, hempty, List.foldl_nil]
      exact ht.work
    · exact vacant_of_at? (ht.at?_goal hnames hmissing)
  · obtain ⟨-, rfl, -⟩ := place_eq_ok_iff.1 hplace
    split at h
    · cases h
    · cases h
    · next hnone => exact vacant_of_at? hnone

/-! ## What is left behind -/

/-- A place has the same file as before, or none as before. -/
def SameFile (t t' : Tree) (g : Place) : Prop :=
  ∀ text, t'.at? g = some (.file text) ↔ t.at? g = some (.file text)

/-- What stands at a place as a file stood there before. -/
def NothingNew (t t' : Tree) (g : Place) : Prop :=
  ∀ text, t'.at? g = some (.file text) → t.at? g = some (.file text)

/-- A file that is the same twice is the same throughout. -/
theorem SameFile.trans (h : SameFile t t' g) (h' : SameFile t' t'' g) : SameFile t t'' g :=
  fun text => (h' text).trans (h text)

/-- Where no file stood and it is the same as before none stands. -/
theorem SameFile.vacant (h : SameFile t t' g) (hg : t.Vacant g) : t'.Vacant g :=
  fun text hat => hg text ((h text).1 hat)

/-- Where nothing stands nothing new does. -/
theorem NothingNew.of_at? (h : t'.at? g = none) : NothingNew t t' g :=
  fun text hat => absurd hat (vacant_of_at? h text)

/-- A place that does not change has the same file. -/
theorem Changes.sameFile {places : Set Place} (h : Changes places t t') (hg : g ∉ places) :
    SameFile t t' g :=
  h.file g hg

/-- Nothing new stands where nothing new stood and nothing changes. -/
theorem Changes.nothingNew {places : Set Place} (h : Changes places t' t'') (hg : g ∉ places)
    (hnew : NothingNew t t' g) : NothingNew t t'' g :=
  fun text hat => hnew text ((h.file g hg text).1 hat)

section
variable {work : Place}

/-- A file that is written elsewhere can be read with those that could be read before. -/
theorem Holds.write {files : List (Path × String)} (h : t.Holds files) (hw : t.work = work)
    (hp : p.goal work ∉ goals work files) (hwrite : t.write p text = .ok t') :
    t'.Holds (files ++ [(p, text)]) := by
  subst hw
  have hfiles : t'.Holds files :=
    (Changes.write hwrite).holds (fun g hg hgp => hp (Set.mem_singleton_iff.1 hgp ▸ hg)) h
  intro x hx
  rcases List.mem_append.1 hx with hx | hx
  · exact hfiles x hx
  · rw [List.mem_singleton.1 hx]
    exact read_of_write hwrite

/-- A file that is moved elsewhere can be read there, among those that could be read before. -/
theorem Holds.rename {before after : List (Path × String)}
    (h : t.Holds (before ++ (p, text) :: after)) (hw : t.work = work)
    (hp : p.goal work ∉ goals work (before ++ after))
    (hq : q.goal work ∉ goals work (before ++ after)) (hrename : t.rename p q = .ok t') :
    t'.Holds (before ++ (q, text) :: after) := by
  subst hw
  have hother : t'.Holds (before ++ after) := by
    refine (Changes.rename hrename).holds (fun g hg hmem => ?_) fun x hx => h x ?_
    · rcases hmem with rfl | rfl
      · exact hp hg
      · exact hq hg
    · exact List.mem_append.2 ((List.mem_append.1 hx).imp_right (.tail _))
  intro x hx
  rcases List.mem_append.1 hx with hx | hx
  · exact hother x (List.mem_append_left _ hx)
  · rcases List.mem_cons.1 hx with rfl | hx
    · exact read_of_rename hrename (h _ (List.mem_append_right _ (.head _)))
    · exact hother x (List.mem_append_right _ hx)

/-! ## Places without a file -/

/-- A tree that is seen from a working directory and has no file at a place. -/
structure Without (work g : Place) (t : Tree) : Prop where
  work : t.work = work
  vacant : t.Vacant g

namespace Without

/-- What is done elsewhere makes no file at the place. -/
theorem of_changes {places : Set Place} (h : t.Without work g) (hchanges : Changes places t t')
    (hg : g ∉ places) : t'.Without work g :=
  ⟨hchanges.work.trans h.work, hchanges.vacant hg h.vacant⟩

/-- Writing elsewhere puts no file at a place. -/
theorem write (h : t.Without work g) (hwrite : t.write p text = .ok t') (hp : g ≠ p.goal work) :
    t'.Without work g :=
  h.of_changes (.write hwrite) (h.work ▸ hp)

/-- Removing elsewhere puts no file at a place. -/
theorem remove (h : t.Without work g) (hremove : t.remove p = .ok t') (hp : g ≠ p.goal work) :
    t'.Without work g :=
  h.of_changes (.remove hremove) (h.work ▸ hp)

/-- Moving elsewhere puts no file at a place. -/
theorem rename (h : t.Without work g) (hrename : t.rename p q = .ok t') (hp : g ≠ p.goal work)
    (hq : g ≠ q.goal work) : t'.Without work g :=
  h.of_changes (.rename hrename) (by rw [h.work]; simp [hp, hq])

end Without

end

end

end Wiring.Disk.Tree
