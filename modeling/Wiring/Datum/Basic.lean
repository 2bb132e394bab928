/-!
# Data trees

The shape that declarations, plans and artifacts share outside the program: numbers, texts, lists
and records whose fields keep the order in which they were written. Configuration files and
artifact files are two ways to write such a tree.
-/

namespace Wiring

/-- A data tree. A record may hold a field twice; readers that care refuse it. -/
inductive Datum where
  | null
  | bool (b : Bool)
  | int (n : Int)
  | float (x : Float)
  | text (s : String)
  | list (items : List Datum)
  | record (fields : List (String × Datum))
  /-- Something that is written correctly but has no value: a number that is too large, half of a
  pair of surrogates, a list or record that is nested too deep. It does no harm where it is passed
  over. -/
  | unreadable
  deriving Inhabited, Repr

namespace Datum

mutual

/-- The number of nodes on the longest way down. It bounds how deep a reader of the tree descends.
-/
def height : Datum → Nat
  | .list items => heightOfItems items + 1
  | .record fields => heightOfFields fields + 1
  | _ => 1

/-- The height of the highest of some trees. -/
def heightOfItems : List Datum → Nat
  | [] => 0
  | d :: rest => max d.height (heightOfItems rest)

/-- The height of the highest field. -/
def heightOfFields : List (String × Datum) → Nat
  | [] => 0
  | (_, d) :: rest => max d.height (heightOfFields rest)

end

mutual

/-- Whether everything in the tree has a value. -/
def isReadable : Datum → Bool
  | .list items => areReadable items
  | .record fields => fieldsAreReadable fields
  | .unreadable => false
  | _ => true

/-- Whether everything in some trees has a value. -/
def areReadable : List Datum → Bool
  | [] => true
  | d :: rest => d.isReadable && areReadable rest

/-- Whether everything in some fields has a value. -/
def fieldsAreReadable : List (String × Datum) → Bool
  | [] => true
  | (_, d) :: rest => d.isReadable && fieldsAreReadable rest

end

/-- The value of the first field with this name. -/
def field? (name : String) : Datum → Option Datum
  | .record fields => (fields.find? (·.1 == name)).map (·.2)
  | _ => none

/-- Puts a named value into values sorted by name; one of the same name is replaced. -/
def insertField {α : Type} (name : String) (value : α) : List (String × α) → List (String × α)
  | [] => [(name, value)]
  | (n, a) :: rest =>
    if name = n then (name, value) :: rest
    else if name < n then (name, value) :: (n, a) :: rest
    else (n, a) :: insertField name value rest

mutual

/-- The tree with the fields of every record sorted by name, the last one of each name kept. -/
def sorted : Datum → Datum
  | .list items => .list (sortedItems items)
  | .record fields => .record (sortedFields [] fields)
  | d => d

/-- `sorted` over the items of a list. -/
def sortedItems : List Datum → List Datum
  | [] => []
  | d :: rest => d.sorted :: sortedItems rest

/-- `sorted` over the fields of a record, with those already placed. -/
def sortedFields (done : List (String × Datum)) : List (String × Datum) → List (String × Datum)
  | [] => done
  | (n, d) :: rest => sortedFields (insertField n d.sorted done) rest

end

end Datum

end Wiring
