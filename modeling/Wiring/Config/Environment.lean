import Wiring.Decimal.Reader

/-!
# Environments

The variables a program is started with, and the environment that one of them says it runs in. The
environment decides which variable files are read.
-/

namespace Wiring

/-- Environment variables, each at most once. -/
structure Variables where
  entries : List (String × String) := []
  deriving DecidableEq, Repr, Inhabited

namespace Variables

/-- The value of a variable. -/
def get? (v : Variables) (key : String) : Option String :=
  v.entries.lookup key

/-- The variables with one more or with another value for one. -/
def set (v : Variables) (key value : String) : Variables :=
  ⟨(key, value) :: v.entries.filter (·.1 != key)⟩

/-- The variables without one. -/
def unset (v : Variables) (key : String) : Variables :=
  ⟨v.entries.filter (·.1 != key)⟩

/-- The variables with one more, unless it is set already. -/
def setNew (v : Variables) (key value : String) : Variables :=
  if (v.get? key).isSome then v else v.set key value

/-- The value of a variable, read as something else; a text that cannot be read counts as unset. -/
def read? {α : Type} (v : Variables) (read : String → Option α) (key : String) : Option α :=
  v.get? key >>= read

end Variables

/-- What a project runs for. -/
inductive Environment where
  | localMachine
  | development
  | production
  | testing
  | custom (name : String)
  deriving DecidableEq, Repr, Inhabited

namespace Environment

/-- The variable that names the environment. -/
def nameKey : String := "PREWIRE_ENV"

/-- The environment with a name; without a name it is the local one. -/
def ofName : Option String → Environment
  | none | some "local" => .localMachine
  | some "production" => .production
  | some "development" => .development
  | some "testing" => .testing
  | some other => .custom other

/-- The name of an environment, which is also the ending of its variable files. -/
def name : Environment → String
  | .localMachine => "local"
  | .development => "development"
  | .production => "production"
  | .testing => "testing"
  | .custom name => name

/-- The environment that the variables name. -/
def detect (v : Variables) : Environment :=
  ofName (v.get? nameKey)

/-- Whether the environment is none of the four. -/
def isCustom : Environment → Bool
  | .custom _ => true
  | _ => false

/-- The variable files of an environment, the one that wins first. -/
def files (e : Environment) : List String :=
  [".env." ++ e.name ++ ".local", ".env." ++ e.name, ".env.local", ".env"]

end Environment

end Wiring
