import Wiring.Compilation
import Wiring.Proofs.Disk.Run

/-!
# Analysing a project only looks at it

Whatever the machine answers, and wherever it stops, analysing the sources of a project leaves all
files as they are (`Compilation.ofProject_looks`).
-/

namespace Wiring

open Disk

namespace Discovery

/-- Listing the sources in a directory changes nothing. -/
theorem sourcePathsOf_looks (root : Path) (exclude : List Path) (dir : Path) :
    (sourcePathsOf root exclude dir).Looks := by
  refine .bind (.isDirectory _) fun isDirectory => ?_
  cases isDirectory with
  | false => exact .done _
  | true =>
    refine .bind (.walk _) fun paths => ?_
    cases paths with
    | ok paths | error fault => exact .done _

/-- Listing the sources of a project changes nothing. -/
theorem sourcePaths_looks (root : Path) (exclude dirs : List Path) :
    (sourcePaths root exclude dirs).Looks := by
  induction dirs with
  | nil => exact .done _
  | cons dir dirs ih =>
    refine .bind (sourcePathsOf_looks root exclude dir) fun paths => ?_
    cases paths with
    | error e => exact .done _
    | ok paths =>
      refine .bind ih fun more => ?_
      cases more with
      | error e | ok more => exact .done _

/-- Indexing files changes nothing. -/
theorem indexFiles_looks (x : Index) (files : List Path) : (indexFiles x files).Looks := by
  induction files generalizing x with
  | nil => exact .done _
  | cons file files ih =>
    refine .bind (.read file) fun text => ?_
    cases text with
    | error fault => exact .done _
    | ok text =>
      cases hx : indexText file text x with
      | error e => simp only [hx]; exact .done _
      | ok x' => simp only [hx]; exact ih x'

/-- Finding the classes of a project changes nothing. -/
theorem classes_looks (root : Path) (dirs exclude : List Path) :
    (classes root dirs exclude).Looks := by
  refine .bind (sourcePaths_looks root exclude dirs) fun paths => ?_
  cases paths with
  | error e => exact .done _
  | ok paths =>
    refine .bind (indexFiles_looks {} _) fun x => ?_
    cases x with
    | error e | ok x => exact .done _

end Discovery

namespace Compilation

/-- Making the plans of a project changes nothing. -/
theorem ofProject_looks (known : List (String × Pass)) (c : Config) (dirs : List Path) :
    (ofProject known c dirs).Looks := by
  refine .bind (Discovery.classes_looks c.projectRoot dirs c.artifactPaths) fun classes => ?_
  cases classes with
  | error e | ok classes => exact .done _

end Compilation

end Wiring
