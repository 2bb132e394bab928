import Wiring.Config.Check
import Wiring.Config.Codec
import Wiring.Config.VariableFile
import Wiring.Disk.Job
import Wiring.Toml.Reader

/-!
# Loading a configuration

The variable files of the environment are applied first, then the configuration file is read, and
variables with special names override what it says. A variable that is set is never changed, so of
all definitions the first counts, and the more special files come first.
-/

namespace Wiring

open Disk

namespace VariableFile

/-- The text of some pieces. The environment goes before what the file itself set. -/
def value (known : List (String × String)) : List Piece → Job String
  | [] => return ""
  | .char c :: ps => return String.singleton c ++ (← value known ps)
  | .variable name :: ps => do
    let found ← if name.isEmpty then pure none else Job.envValue name
    return (found.or (known.lookup name)).getD "" ++ (← value known ps)

/-- Sets a variable unless it is set. -/
def setNew (key value : String) : Job Unit := do
  if (← Job.envValue key).isNone then Job.setEnv key value

/-- Sets what a file sets, with the values it set so far. -/
def apply (known : List (String × String)) : List Assignment → Job Unit
  | [] => return
  | a :: rest => do
    let v ← value known a.pieces
    setNew a.key v
    apply ((a.key, v) :: known) rest

/-- Applies a variable file if it can be read. -/
def load (path : Path) : Job Unit := do
  match ← Job.read path with
  | .ok text => apply [] (read text)
  | .error _ => return

end VariableFile

namespace Environment

/-- Applies the variable files of a project, and gives the environment that they belong to. What
they say about the environment itself comes too late. -/
def load (root : Path) : Job Environment := do
  let e := ofName (← Job.envValue nameKey)
  e.files.forM fun file => VariableFile.load (Path.join root file)
  return e

end Environment

namespace Config

/-- The name of the configuration file of a project. -/
def fileName : String := "prewire.toml"

/-- The configuration that a text spells. -/
def ofText (text : String) : Except CompileError Config :=
  match Toml.read? text >>= ofDatumAs? .toml with
  | some c => .ok c
  | none => .error .configText

/-- Reads a configuration file. -/
def ofFile (path : Path) : Job (Except CompileError Config) := do
  match ← Job.read path with
  | .ok text => return ofText text
  | .error _ => return .error (.io path)

/-- The configuration with what the variables override. -/
def overridden (c : Config) : Job Config := do
  let root? ← Job.envValue "PREWIRE_PROJECT_ROOT"
  let dir? ← Job.envValue "PREWIRE_OUTPUT_DIR"
  let strict? := (← Job.envValue "PREWIRE_STRICT_ROUTES") >>= Decimal.bool?
  return { c with
    projectRoot := root?.getD c.projectRoot
    output := { c.output with dir := dir?.getD c.output.dir }
    strictRoutes := strict?.getD c.strictRoutes }

/-- The configuration of a project before anything overrides it. -/
def ofProject (root : Path) : Job (Except CompileError Config) := do
  let path := Path.join root fileName
  if ← Job.isFile path then ofFile path else return .ok {}

/-- Loads and checks the configuration of a project. Unless the file says otherwise, its root is the
one it was found at. -/
def load (root : Path) : Job (Except CompileError Config) := do
  let _ ← Environment.load root
  match ← ofProject root with
  | .error e => return .error e
  | .ok c =>
    let c := if Path.same c.projectRoot "." then { c with projectRoot := root } else c
    let c ← overridden c
    return c.check.map fun _ => c

end Config

end Wiring
