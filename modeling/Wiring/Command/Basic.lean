import Wiring.Disk.Path

/-!
# Commands

What a user can ask for, and what a run leaves behind: a status and two texts. A run fails with a
message, which is then the last line of the second text.
-/

namespace Wiring

/-- What every command is told. -/
structure Options where
  /-- The directory of the project. -/
  root : Disk.Path := "."
  /-- A configuration file in place of the project's own. -/
  config? : Option Disk.Path := none
  deriving DecidableEq, Repr, Inhabited

/-- What compiling is told. -/
structure CompileOptions where
  /-- Where artifacts are written, whatever the configuration says. -/
  out? : Option Disk.Path := none
  /-- The source directories, if not the usual one. -/
  sources : List Disk.Path := []
  /-- Whether any diagnostic keeps the artifacts from being written. -/
  denyWarnings : Bool := false
  deriving DecidableEq, Repr, Inhabited

/-- What is asked for. -/
inductive Command where
  /-- Compile the project and write the artifacts. -/
  | compile (settings : CompileOptions)
  /-- List the routes. -/
  | routes
  /-- List the services. -/
  | services
  /-- Tell which route a request takes. -/
  | find (method path : String)
  deriving DecidableEq, Repr, Inhabited

/-- What a run leaves: its status, and what it wrote to the output and to the error stream. -/
structure Outcome where
  status : Nat := 0
  output : String := ""
  errors : String := ""
  deriving DecidableEq, Repr, Inhabited

namespace Outcome

/-- Lines of text, each with its end. -/
def lines (ls : List String) : String :=
  String.join (ls.map (· ++ "\n"))

/-- A run that wrote some lines. -/
def printed (ls : List String) : Outcome :=
  { output := lines ls }

/-- A run that failed with a message. -/
def failed (message : String) : Outcome :=
  { status := 1, errors := lines ["Error: " ++ message] }

/-- The outcome of a run that wrote something before. -/
def after (first : Outcome) (o : Outcome) : Outcome :=
  { o with output := first.output ++ o.output, errors := first.errors ++ o.errors }

/-- The outcome of a run that may have failed with a message. -/
def ofExcept : Except String Outcome → Outcome
  | .ok o => o
  | .error message => failed message

end Outcome

end Wiring
