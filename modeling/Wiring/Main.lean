import Wiring.Command.Run

/-!
# The program

Carries out the requests of a command on the machine that the program runs on, one after the other.
Variables that a command sets are kept beside those of the system, which stay as they are.
-/

namespace Wiring.Disk

/-- Why the system refused something. -/
def Fault.ofSystem : IO.Error → Fault
  | .noFileOrDirectory .. => .missing
  | _ => .unsuitable

/-- Tries something that the system may refuse. -/
def tryOut {α : Type} (act : IO α) : IO (Except Fault α) := do
  match ← act.toBaseIO with
  | .ok a => return .ok a
  | .error e => return .error (Fault.ofSystem e)

/-- What stands at a path, if anything does. -/
def fileTypeAt (p : Path) : IO (Option IO.FS.FileType) := do
  match ← tryOut (do (← IO.FS.realPath p).metadata) with
  | .ok found => return some found.type
  | .error _ => return none

/-- The longest path a system takes, which bounds the depth of directories. -/
def maxDepth : Nat := 4096

/-- All paths below a directory down to a depth. Links are not followed. -/
def pathsBelow : (depth : Nat) → Path → IO (List Path)
  | 0, _ => return []
  | depth + 1, p => do
    let mut found := []
    for e in ← (← IO.FS.realPath p).readDir do
      let path := p.join e.fileName
      found := found ++ [path]
      if (← e.path.symlinkMetadata).type == .dir then
        found := found ++ (← pathsBelow depth path)
    return found

/-- Answers a request. -/
def Request.carryOut : (r : Request) → StateT Variables IO r.Answer
  | .read p => tryOut (IO.FS.readFile p)
  | .write p text => tryOut (IO.FS.writeFile p text)
  | .createDirs p => tryOut (IO.FS.createDirAll p)
  | .rename source target => tryOut (IO.FS.rename source target)
  | .remove p => tryOut (IO.FS.removeFile p)
  | .isFile p => return (← fileTypeAt p) == some .file
  | .isDirectory p => return (← fileTypeAt p) == some .dir
  | .walk p => tryOut (return p :: (← pathsBelow maxDepth p))
  | .envValue key => do
    match (← get).get? key with
    | some value => return some value
    | none => IO.getEnv key
  | .setEnv key value => modify fun v => v.set key value

/-- Carries out a job. -/
def Job.carryOut {α : Type} : Job α → StateT Variables IO α
  | done a => return a
  | ask r next => do (next (← r.carryOut)).carryOut

end Wiring.Disk

/-- Runs a command line. -/
def main (args : List String) : IO UInt32 := do
  let run := toString (← IO.monoNanosNow)
  let (outcome, _) ← (Wiring.Command.run run args).carryOut.run {}
  IO.print outcome.output
  IO.eprint outcome.errors
  return UInt32.ofNat outcome.status
