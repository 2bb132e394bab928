import Wiring.Config.Environment
import Wiring.Disk.Tree

/-!
# Work with files and variables

What the program does with the machine it runs on is a job: a sequence of requests, each with what
is done with the answer to it. A job can be run on a file tree, cut after any number of requests,
or carried out on a real machine, one request at a time.
-/

namespace Wiring.Disk

/-- One thing asked of the machine. -/
inductive Request where
  | read (path : Path)
  | write (path : Path) (text : String)
  | createDirs (path : Path)
  | rename (source target : Path)
  | remove (path : Path)
  | isFile (path : Path)
  | isDirectory (path : Path)
  | walk (path : Path)
  | envValue (key : String)
  | setEnv (key value : String)
  deriving DecidableEq, Repr, Inhabited

/-- What is answered to a request. -/
abbrev Request.Answer : Request → Type
  | read _ => Except Fault String
  | write _ _ | createDirs _ | rename _ _ | remove _ => Except Fault Unit
  | isFile _ | isDirectory _ => Bool
  | walk _ => Except Fault (List Path)
  | envValue _ => Option String
  | setEnv _ _ => Unit

/-- A sequence of requests that ends with a result. -/
inductive Job (α : Type) where
  | done (a : α)
  | ask (r : Request) (next : r.Answer → Job α)

namespace Job

/-- Goes on with the result of a job. -/
def andThen {α β : Type} : Job α → (α → Job β) → Job β
  | done a, f => f a
  | ask r next, f => ask r fun answer => (next answer).andThen f

instance : Monad Job where
  pure := done
  bind := andThen

/-- The job of one request. -/
def request (r : Request) : Job r.Answer :=
  ask r done

/-- Reads a file. -/
def read (p : Path) : Job (Except Fault String) := request (.read p)

/-- Writes a file. -/
def write (p : Path) (text : String) : Job (Except Fault Unit) := request (.write p text)

/-- Makes a directory and those above it. -/
def createDirs (p : Path) : Job (Except Fault Unit) := request (.createDirs p)

/-- Moves a file. -/
def rename (source target : Path) : Job (Except Fault Unit) := request (.rename source target)

/-- Removes a file. -/
def remove (p : Path) : Job (Except Fault Unit) := request (.remove p)

/-- Whether a file stands at a path. -/
def isFile (p : Path) : Job Bool := request (.isFile p)

/-- Whether a directory stands at a path. -/
def isDirectory (p : Path) : Job Bool := request (.isDirectory p)

/-- All paths at a directory and below. -/
def walk (p : Path) : Job (Except Fault (List Path)) := request (.walk p)

/-- The value of an environment variable. -/
def envValue (key : String) : Job (Option String) := request (.envValue key)

/-- Sets an environment variable. -/
def setEnv (key value : String) : Job Unit := request (.setEnv key value)

end Job

/-- A machine: its files and its environment variables. -/
structure Machine where
  tree : Tree := {}
  env : Variables := {}
  deriving DecidableEq, Repr, Inhabited

namespace Machine

/-- The machine after a change of its files; without a change if that failed. -/
def change (m : Machine) : Except Fault Tree → Except Fault Unit × Machine
  | .ok tree => (.ok (), { m with tree })
  | .error fault => (.error fault, m)

/-- Answers a request. -/
def answer (m : Machine) : (r : Request) → r.Answer × Machine
  | .read p => (m.tree.read p, m)
  | .write p text => m.change (m.tree.write p text)
  | .createDirs p =>
    let (tree, made) := m.tree.createDirs p
    (made, { m with tree })
  | .rename source target => m.change (m.tree.rename source target)
  | .remove p => m.change (m.tree.remove p)
  | .isFile p => ((m.tree.find? p).any (· != .directory), m)
  | .isDirectory p => (m.tree.find? p == some .directory, m)
  | .walk p => (m.tree.walk p, m)
  | .envValue key => (m.env.get? key, m)
  | .setEnv key value => ((), { m with env := m.env.set key value })

/-- Runs a job to its end. -/
def run {α : Type} (m : Machine) : Job α → α × Machine
  | .done a => (a, m)
  | .ask r next =>
    let (answer, m) := m.answer r
    m.run (next answer)

end Machine

end Wiring.Disk
