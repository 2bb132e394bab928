import Wiring.Disk.Path

/-!
# File trees

A tree of files and directories below the root, with the directory in it that relative paths are
seen from. A place is the list of names that leads to it from the root; every place that is in the
tree is listed with what stands there, and the root itself is the empty list and always there. A
step up from the root leads nowhere else. Names and paths have a greatest length, beyond which
nothing can stand at them.
-/

namespace Wiring.Disk

/-- Why nothing was done. -/
inductive Fault where
  /-- There is nothing at the path, or no directory above it. -/
  | missing
  /-- Something else stands at the path or above it, or nothing can stand there. -/
  | unsuitable
  deriving DecidableEq, Repr, Inhabited

/-- What stands at a place. -/
inductive Node where
  | file (text : String)
  | directory
  deriving DecidableEq, Repr, Inhabited

/-- The names that lead to a place from the root. -/
abbrev Place := List String

/-- A tree of files. Unless it is given more it has an empty working directory and nothing else. -/
structure Tree where
  nodes : List (Place × Node) := [(["work"], .directory)]
  /-- The working directory, which relative paths are seen from. -/
  work : Place := ["work"]
  deriving DecidableEq, Repr, Inhabited

namespace Tree

/-- What stands at a place. -/
def at? (t : Tree) : Place → Option Node
  | [] => some .directory
  | place => t.nodes.lookup place

/-- The tree with something else at a place. -/
def put (t : Tree) (place : Place) (n : Node) : Tree :=
  { t with nodes := (place, n) :: t.nodes.filter (·.1 != place) }

/-- The tree with nothing at a place. -/
def erase (t : Tree) (place : Place) : Tree :=
  { t with nodes := t.nodes.filter (·.1 != place) }

/-- Checks that a directory stands at a place. -/
def enter (t : Tree) (place : Place) : Except Fault Unit :=
  match t.at? place with
  | some .directory => .ok ()
  | some (.file _) => .error .unsuitable
  | none => .error .missing

/-- A name has at most so many bytes. -/
def nameLimit : Nat := 255

/-- A path has at most so many bytes. -/
def pathLimit : Nat := 4095

/-- Whether a name can stand in a directory. -/
def isName (s : String) : Bool :=
  s.utf8ByteSize ≤ nameLimit

/-- Whether something can be asked of a path. -/
def isAskable (p : Path) : Bool :=
  p.utf8ByteSize ≤ pathLimit && !p.toList.contains '\x00'

/-- The place that components lead to, from a directory on or from the root. All places but the last
have to be directories, apart from what stands before the root. -/
def placeOf (t : Tree) (start : Place) : List Component → Except Fault Place
  | [] => .ok start
  | .root :: rest => t.placeOf [] rest
  | .current :: rest => do
    t.enter start
    t.placeOf start rest
  | .parent :: rest => do
    t.enter start
    t.placeOf start.dropLast rest
  | .name s :: rest => do
    t.enter start
    if isName s then t.placeOf (start ++ [s]) rest else .error .unsuitable

/-- Whether a path says that it is a directory: it ends in a slash or in a dot. -/
def saysDirectory (p : Path) : Bool :=
  match (Text.fields '/' p).getLast? with
  | some last => last = "" || last = "." || last = ".."
  | none => false

/-- The place of a path. -/
def place (t : Tree) (p : Path) : Except Fault Place := do
  if p = "" then throw .missing
  if !isAskable p then throw .unsuitable
  let place ← t.placeOf t.work p.components
  if saysDirectory p then
    match t.at? place with
    | some (.file _) => throw .unsuitable
    | _ => return place
  else return place

/-- What stands at a path. -/
def find? (t : Tree) (p : Path) : Option Node :=
  match t.place p with
  | .ok place => t.at? place
  | .error _ => none

/-- The text of a file. -/
def read (t : Tree) (p : Path) : Except Fault String := do
  match t.at? (← t.place p) with
  | some (.file text) => return text
  | some .directory => throw .unsuitable
  | none => throw .missing

/-- Writes a file whose directory is there. -/
def write (t : Tree) (p : Path) (text : String) : Except Fault Tree := do
  let place ← t.place p
  match t.at? place with
  | some .directory => throw .unsuitable
  | some (.file _) => return t.put place (.file text)
  | none => if saysDirectory p then throw .unsuitable else return t.put place (.file text)

/-- Removes a file. -/
def remove (t : Tree) (p : Path) : Except Fault Tree := do
  let place ← t.place p
  match t.at? place with
  | some (.file _) => return t.erase place
  | some .directory => throw .unsuitable
  | none => throw .missing

/-- Moves a file to another path; a file that is there is replaced. -/
def rename (t : Tree) (source target : Path) : Except Fault Tree := do
  let there ← t.place source
  match t.at? there with
  | some (.file text) =>
    let place ← t.place target
    match t.at? place with
    | some .directory => throw .unsuitable
    | _ =>
      if saysDirectory target then throw .unsuitable
      else return (t.erase there).put place (.file text)
  | some .directory => throw .unsuitable
  | none => throw .missing

/-- Makes the directories that components lead through, from a directory on, until one cannot be
made. -/
def createFrom (t : Tree) (start : Place) : List Component → Tree × Except Fault Unit
  | [] => (t, .ok ())
  | .root :: rest => t.createFrom [] rest
  | .current :: rest => t.createFrom start rest
  | .parent :: rest =>
    match t.enter start with
    | .ok () => t.createFrom start.dropLast rest
    | .error fault => (t, .error fault)
  | .name s :: rest =>
    let next := start ++ [s]
    if !isName s then (t, .error .unsuitable)
    else
      match t.at? next with
      | some .directory => t.createFrom next rest
      | some (.file _) => (t, .error .unsuitable)
      | none =>
        match t.enter start with
        | .ok () => (t.put next .directory).createFrom next rest
        | .error fault => (t, .error fault)

/-- Makes a directory and those above it. Those that were made stay if a further one cannot be. -/
def createDirs (t : Tree) (p : Path) : Tree × Except Fault Unit :=
  if isAskable p then t.createFrom t.work p.components else (t, .error .unsuitable)

/-- Writes a file, and makes the directories above it. -/
def save (t : Tree) (p : Path) (text : String) : Except Fault Tree := do
  let (t, made) := t.createDirs p.parent
  made
  t.write p text

/-- Writes some files, one after the other. -/
def saveAll (t : Tree) (files : List (Path × String)) : Except Fault Tree :=
  files.foldlM (fun t (p, text) => t.save p text) t

/-- The paths of all that stands at a directory or below it, directories included, seen from the
path of the directory. The directory itself comes first. -/
def walk (t : Tree) (p : Path) : Except Fault (List Path) := do
  let start ← t.place p
  t.enter start
  let below := t.nodes.filterMap fun (place, _) =>
    if start.length < place.length && start.isPrefixOf place then
      some ((place.drop start.length).foldl Path.join p)
    else none
  return p :: below

/-- The paths of all files below the working directory, sorted. -/
def files (t : Tree) : List Path :=
  let all := t.nodes.filterMap fun (place, n) =>
    match n with
    | .file _ =>
      if t.work.isPrefixOf place then some ("/".intercalate (place.drop t.work.length)) else none
    | .directory => none
  all.mergeSort fun a b => !decide (b < a)

end Tree

end Wiring.Disk
