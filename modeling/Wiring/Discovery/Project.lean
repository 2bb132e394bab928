import Wiring.Discovery.Index
import Wiring.Disk.Job
import Wiring.Error

/-!
# Discovering the classes of a project

All source files below the source directories are read in the order of their paths and indexed. A
file that cannot be read, is no source text or breaks a rule for attributes ends the discovery.
-/

namespace Wiring.Discovery

open Disk

/-- Orders the components of paths: the root first, then the single dot, the double dot and names.
-/
def componentKey : Component → Nat × String
  | .root => (0, "")
  | .current => (1, "")
  | .parent => (2, "")
  | .name s => (3, s)

/-- Whether a list of components comes before another or is the same. -/
def componentsLe : List Component → List Component → Bool
  | [], _ => true
  | _ :: _, [] => false
  | a :: as, b :: bs =>
    let (m, s) := componentKey a
    let (n, t) := componentKey b
    if a = b then componentsLe as bs
    else decide (m < n) || (m == n && decide (s < t))

/-- Whether a path comes before another or is in the same place. -/
def pathLe (p q : Path) : Bool :=
  componentsLe p.components q.components

/-- Whether a path is called a source file. -/
def isSourceName (p : Path) : Bool :=
  (p.fileName?.bind Path.extension?) == some "rs"

/-- Whether a path is left out: it ends with the components of an excluded one. -/
def isExcluded (exclude : List Path) (p : Path) : Bool :=
  exclude.any fun e => e.components.isSuffixOf p.components

/-- The paths called source files below one directory of a project, files or not. -/
def sourcePathsOf (root : Path) (exclude : List Path) (dir : Path) :
    Job (Except CompileError (List Path)) := do
  let dir := Path.join root dir
  if !(← Job.isDirectory dir) then return .error (.source dir (some "source directory not found"))
  else
    match ← Job.walk dir with
    | .ok paths => return .ok (paths.filter fun p => isSourceName p && !isExcluded exclude p)
    | .error _ => return .error (.source dir none)

/-- The paths called source files below some directories of a project, one directory after the
other. -/
def sourcePaths (root : Path) (exclude : List Path) :
    List Path → Job (Except CompileError (List Path))
  | [] => return .ok []
  | dir :: dirs => do
    match ← sourcePathsOf root exclude dir with
    | .error e => return .error e
    | .ok paths =>
      match ← sourcePaths root exclude dirs with
      | .error e => return .error e
      | .ok more => return .ok (paths ++ more)

/-- The error for a flaw in a source file. -/
def flawed (file : Path) : Source.Flaw → CompileError
  | .malformed => .source file none
  | .complaint text => .source file (some text)

/-- The index with what one source text declares. -/
def indexText (file : Path) (text : String) (x : Index) : Except CompileError Index :=
  ((do x.addItems file (← Source.readFile text)) : Except Source.Flaw Index).mapError (flawed file)

/-- The index with what some source files declare. -/
def indexFiles (x : Index) : List Path → Job (Except CompileError Index)
  | [] => return .ok x
  | file :: files => do
    match ← Job.read file with
    | .error _ => return .error (.io file)
    | .ok text =>
      match indexText file text x with
      | .error e => return .error e
      | .ok x => indexFiles x files

/-- The classes that the sources of a project declare. -/
def classes (root : Path) (dirs exclude : List Path) :
    Job (Except CompileError (List ClassDescriptor)) := do
  match ← sourcePaths root exclude dirs with
  | .error e => return .error e
  | .ok paths =>
    match ← indexFiles {} (paths.mergeSort pathLe) with
    | .error e => return .error e
    | .ok x => return .ok x.descriptors

end Wiring.Discovery
