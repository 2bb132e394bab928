import Wiring.Text.Fields

/-!
# Paths of files

A path is kept as it was written. Two paths are the same place for the compiler when their
components agree: repeated slashes, a slash at the end and single dots inside a path do not count,
while a dot at the start and the parent directory do.
-/

namespace Wiring.Disk

/-- A path as it was written. -/
abbrev Path := String

/-- One step of a path. -/
inductive Component where
  | root
  | current
  | parent
  | name (s : String)
  deriving DecidableEq, Repr

namespace Path

/-- Whether a path starts at the root. -/
def isAbsolute (p : Path) : Bool :=
  p.toList.head? == some '/'

/-- The steps of the fields of a path after its first. -/
def steps (fields : List String) : List Component :=
  fields.filterMap fun s =>
    if s = "" ∨ s = "." then none
    else if s = ".." then some .parent
    else some (.name s)

/-- The components of a path. -/
def components (p : Path) : List Component :=
  match Text.fields '/' p with
  | [] => []
  | first :: rest =>
    if p.isAbsolute then .root :: steps rest
    else if first = "." then .current :: steps rest
    else steps (first :: rest)

/-- Whether two paths have the same components. -/
def same (p q : Path) : Bool :=
  p.components = q.components

/-- The path `q` seen from the directory `p`. An absolute path stands for itself. -/
def join (p q : Path) : Path :=
  if q.isAbsolute then q
  else if p = "" ∨ p.toList.getLast? = some '/' then p ++ q
  else p ++ "/" ++ q

/-- The name of the last component, if it is one. -/
def fileName? (p : Path) : Option String :=
  match p.components.getLast? with
  | some (.name s) => some s
  | _ => none

/-- Drops the fields at the end of a path that are no component, the first field apart. -/
def trimStop : List String → List String
  | [] => []
  | [first] => [first]
  | first :: rest =>
    let rest := (rest.reverse.dropWhile fun s => s = "" || s = ".").reverse
    first :: rest

/-- The path of the directory above the last component. -/
def parent (p : Path) : Path :=
  let fields := trimStop (trimStop (Text.fields '/' p)).dropLast
  if p.isAbsolute && fields = [""] then "/" else "/".intercalate fields

/-- The path with another name for its last component; a path whose last component is no name gets
one more. -/
def withFileName (p : Path) (name : String) : Path :=
  if p.fileName?.isSome then p.parent.join name else p.join name

/-- What follows the last dot of a name, unless the dot is its first character. -/
def extension? (name : String) : Option String :=
  match Text.cutLast? "." name with
  | some (stem, rest) => if stem = "" then none else some rest
  | none => none

end Path

end Wiring.Disk
