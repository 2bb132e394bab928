import Wiring.Datum.Basic

/-!
# Reading values from data trees

A structure is read from a record, by field name, or from a list, by position; `columns?` gives the
values of its fields either way. A field is required, optional (`null` counts as absent) or has a
value that stands in for it. A union carries the name of its case in one of the fields, or is
recognised by trying its cases in turn.

The rules depend a little on the `Style` of a tree: on what it was written in, and on whether it is
inside a union, for the fields of a union are put aside until its case is known and are then read
with less care.
-/

namespace Wiring

/-- Types whose values can be read from a data tree. -/
class FromDatum (α : Type) where
  /-- The value a tree stands for, if it has the right shape. -/
  fromDatum? : Datum → Option α

/-- Types whose values can be written as a data tree. -/
class ToDatum (α : Type) where
  /-- The tree that stands for a value. -/
  toDatum : α → Datum

export FromDatum (fromDatum?)
export ToDatum (toDatum)

namespace Datum

/-- What decides how strictly a tree is read. -/
structure Style where
  /-- It was written as a configuration file, which has no `null`, and not as JSON. -/
  isToml : Bool := false
  /-- It was put aside until the case of the union around it was known. -/
  isAside : Bool := false
  deriving DecidableEq, Repr

namespace Style

/-- Trees from JSON. -/
def json : Style := {}

/-- Trees from a configuration file. -/
def toml : Style := { isToml := true }

/-- The same for what is inside a union. -/
def aside (s : Style) : Style := { s with isAside := true }

/-- Whether a tree can stand next to the name of a case that has no data. -/
def isBlank (s : Style) : Datum → Bool
  | .null => true
  | .record [] => s.isToml || s.isAside
  | .list [] => s.isToml && !s.isAside
  | _ => false

/-- Whether a list may have more items than a structure has fields. -/
def allowsSurplus (s : Style) : Bool :=
  s.isToml && !s.isAside

/-- Whether the case of a union may be given by its place among the cases. -/
def allowsPlace (s : Style) : Bool :=
  s.isAside && !s.isToml

end Style

/-- The text of a text node. -/
def text? : Datum → Option String
  | .text s => some s
  | _ => none

/-- The truth value of a truth-value node. -/
def bool? : Datum → Option Bool
  | .bool b => some b
  | _ => none

/-- The items of a list node. -/
def list? : Datum → Option (List Datum)
  | .list items => some items
  | _ => none

/-- A whole number that lies between the bounds. -/
def intBetween? (low high : Int) : Datum → Option Int
  | .int n => if low ≤ n ∧ n ≤ high then some n else none
  | _ => none

/-- The value of a field that occurs at most once: `none` if it occurs twice. -/
def single? (name : String) (fields : List (String × Datum)) : Option (Option Datum) :=
  match fields.filter (·.1 == name) with
  | [] => some none
  | [(_, d)] => some (some d)
  | _ => none

/-- The values of the fields of a structure: by name from a record, by position from a list. -/
def columnsAs? (s : Style) (names : List String) : Datum → Option (List (Option Datum))
  | .record fields => names.mapM fun name => single? name fields
  | .list items =>
    if items.length ≤ names.length || s.allowsSurplus then
      some ((items.take names.length).map some ++
        List.replicate (names.length - items.length) none)
    else none
  | _ => none

/-- The values of the fields of a structure in a tree from JSON. -/
def columns? (names : List String) (d : Datum) : Option (List (Option Datum)) :=
  d.columnsAs? .json names

/-- Whether a record has only fields with these names. A list has no field names. -/
def knowsAll (names : List String) : Datum → Bool
  | .record fields => fields.all fun (n, _) => names.contains n
  | _ => true

/-- `columnsAs?` that refuses fields with other names. -/
def strictColumns? (s : Style) (names : List String) (d : Datum) : Option (List (Option Datum)) :=
  if d.knowsAll names then d.columnsAs? s names else none

/-- A required field. -/
def required {α : Type} (read : Datum → Option α) : Option Datum → Option α
  | some d => read d
  | none => none

/-- A field with a value that stands in when it is absent. -/
def defaulting {α : Type} (fallback : α) (read : Datum → Option α) : Option Datum → Option α
  | some d => read d
  | none => some fallback

/-- An optional field: absent or `null` is no value. -/
def optional {α : Type} (read : Datum → Option α) : Option Datum → Option (Option α)
  | some .null => some none
  | some d => (read d).map some
  | none => some none

/-- A list whose items are all read. -/
def listOf {α : Type} (read : Datum → Option α) : Datum → Option (List α)
  | .list items => items.mapM read
  | _ => none

/-- A pair, written as a list of two. -/
def pairOf {α β : Type} (first : Datum → Option α) (second : Datum → Option β) :
    Datum → Option (α × β)
  | .list [a, b] => do return (← first a, ← second b)
  | _ => none

/-- Named values, all of them read, sorted by name; the last one of each name is kept. -/
def mapOf {α : Type} (read : Datum → Option α) : Datum → Option (List (String × α))
  | .record fields =>
    fields.foldlM (fun done (name, d) => do return insertField name (← read d) done) []
  | _ => none

/-- The name of a case without data: a text, or a record whose one field has no value. -/
def caseName? (s : Style) : Datum → Option String
  | .text name => some name
  | .record [(name, d)] => if s.isBlank d then some name else none
  | _ => none

/-- The case that a tag names, or whose place among the cases it gives. -/
def tagName? (s : Style) (cases : List String) : Datum → Option String
  | .text name => some name
  | .int n => if s.allowsPlace && 0 ≤ n then cases[n.toNat]? else none
  | _ => none

/-- The case of a union that names it in the field `tag`, or in the first place of a list. The name
can come last, so everything in front of it has to have a value. -/
def tagged? (s : Style) (tag : String) (cases : List String) (d : Datum) : Option String := do
  if !d.isReadable then none
  match d with
  | .record fields => (← single? tag fields) >>= tagName? s cases
  | .list (first :: _) => first.tagName? s cases
  | _ => none

/-- The case and the content of a union that has a field for each, or a list of the two. -/
def cased? (s : Style) (tag content : String) : Datum → Option (String × Option Datum)
  | .record fields => do
    return (← (← single? tag fields) >>= caseName? s, ← single? content fields)
  | .list [name, d] => do return (← name.caseName? s, some d)
  | _ => none

/-- A field that is written only when it has a value. -/
def optionalField {α : Type} (name : String) (write : α → Datum) : Option α → List (String × Datum)
  | some a => [(name, write a)]
  | none => []

/-- A record field that is written only when it has fields. -/
def mapField {α : Type} (name : String) (write : α → Datum) :
    List (String × α) → List (String × Datum)
  | [] => []
  | entries => [(name, .record (entries.map fun (n, a) => (n, write a)))]

/-- A list field that is written only when it has items. -/
def listField {α : Type} (name : String) (write : α → Datum) : List α → List (String × Datum)
  | [] => []
  | items => [(name, .list (items.map write))]

end Datum

end Wiring
