import Wiring.Disk.Job
import Wiring.Error

/-!
# Batches of files

The files of a batch are first written under staging names beside their final names, and then moved
into place one after the other; the last file is staged when all others are in place. So nothing
changes under the final names until every other file is written, and the last file is there only if
all others are. Staged files that are not moved are removed. Each run has staging names of its own.
-/

namespace Wiring

/-- A file under its staging name. -/
structure Staged where
  staging : Disk.Path
  target : Disk.Path
  deriving DecidableEq, Repr, Inhabited

namespace Staged

/-- Where a run stages a file. -/
def of (run : String) (dir : Disk.Path) (file : String) : Staged :=
  let target := dir.join file
  let name := (Disk.Path.fileName? target).getD ""
  ⟨Disk.Path.withFileName target ("." ++ name ++ "." ++ run ++ ".staged"), target⟩

/-- Removes staged files. -/
def discard : List Staged → Disk.Job Unit
  | [] => pure ()
  | s :: rest => do
    let _ ← Disk.Job.remove s.staging
    discard rest

end Staged

namespace Batch

/-- Makes the directory of a batch. -/
def start (dir : Disk.Path) : Disk.Job (Except CompileError Unit) := do
  match ← Disk.Job.createDirs dir with
  | .ok () => return .ok ()
  | .error _ => return .error (.io dir)

/-- Stages files after those already staged. After a failure nothing stays staged. -/
def stage (run : String) (dir : Disk.Path) (staged : List Staged) :
    List (String × String) → Disk.Job (Except CompileError (List Staged))
  | [] => return .ok staged
  | (file, text) :: rest => do
    let s := Staged.of run dir file
    match ← Disk.Job.write s.staging text with
    | .ok () => stage run dir (staged ++ [s]) rest
    | .error _ =>
      Staged.discard (staged ++ [s])
      return .error (.io s.staging)

/-- Makes the directory of a batch and stages its files, all but the last. -/
def prepare (run : String) (dir : Disk.Path) (files : List (String × String)) :
    Disk.Job (Except CompileError (List Staged)) := do
  match ← start dir with
  | .error e => return .error e
  | .ok () => stage run dir [] files

/-- Moves staged files into place. After a failure the others are removed. -/
def move (published : List Disk.Path) :
    List Staged → Disk.Job (Except CompileError (List Disk.Path))
  | [] => return .ok published
  | s :: rest => do
    match ← Disk.Job.rename s.staging s.target with
    | .ok () => move (published ++ [s.target]) rest
    | .error _ =>
      Staged.discard (s :: rest)
      return .error (.io s.target)

/-- Moves staged files into place, then writes the last file. The result is where all files are. -/
def publish (run : String) (dir : Disk.Path) (staged : List Staged) (file text : String) :
    Disk.Job (Except CompileError (List Disk.Path)) := do
  match ← move [] staged with
  | .error e => return .error e
  | .ok published =>
    match ← stage run dir [] [(file, text)] with
    | .error e => return .error e
    | .ok last => move published last

end Batch

end Wiring
