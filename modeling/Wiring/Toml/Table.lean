import Wiring.Datum.Basic

/-!
# Tables of a configuration file

A table grows by headers, by dotted keys and by values. Each way may add to what the same way made
before only so far: a header names a table once, dotted keys add to tables that dotted keys made,
and a value is written once.
-/

namespace Wiring.Toml

/-- How a table came to be. -/
inductive Origin where
  /-- By a header of its own. -/
  | header
  /-- By the header of a table inside it. -/
  | implied
  /-- By a dotted key. -/
  | dotted
  deriving DecidableEq, Repr

/-- What a key stands for. -/
inductive Node where
  | value (d : Datum)
  | table (origin : Origin) (entries : List (String × Node))
  /-- A list of tables; the last one still grows. -/
  | tables (items : List (List (String × Node)))
  deriving Repr

/-- The entries of a table. -/
abbrev Entries : Type := List (String × Node)

namespace Entries

/-- The entries with another node for a key. -/
def put (key : String) (n : Node) : Entries → Entries
  | [] => [(key, n)]
  | (k, m) :: rest => if k = key then (k, n) :: rest else (k, m) :: put key n rest

end Entries

/-- A list with its last item changed. -/
def changeLast? {α : Type} (f : α → Option α) : List α → Option (List α)
  | [] => none
  | [a] => (f a).map ([·])
  | a :: rest => (changeLast? f rest).map (a :: ·)

/-- Changes the table at a path, going through the last table of a list. Tables on the way that are
not there yet are made. -/
def within? (f : Entries → Option Entries) : List String → Entries → Option Entries
  | [], entries => f entries
  | key :: path, entries =>
    match entries.lookup key with
    | none => (within? f path []).map fun inner => entries.put key (.table .implied inner)
    | some (.value _) => none
    | some (.table origin inner) =>
      (within? f path inner).map fun inner => entries.put key (.table origin inner)
    | some (.tables items) =>
      (changeLast? (within? f path) items).map fun items => entries.put key (.tables items)

/-- Makes the table of a header. -/
def define? (key : String) (entries : Entries) : Option Entries :=
  match entries.lookup key with
  | none => some (entries.put key (.table .header []))
  | some (.table .implied inner) => some (entries.put key (.table .header inner))
  | some _ => none

/-- Adds a table to the list of a header. -/
def extend? (key : String) (entries : Entries) : Option Entries :=
  match entries.lookup key with
  | none => some (entries.put key (.tables [[]]))
  | some (.tables items) => some (entries.put key (.tables (items ++ [[]])))
  | some _ => none

/-- Writes a value at a key that stands for nothing yet. -/
def write? (key : String) (d : Datum) (entries : Entries) : Option Entries :=
  if (entries.lookup key).isNone then some (entries.put key (.value d)) else none

/-- Writes a value at a key below a table that came to be as given, by the steps in between. The
table that takes the value has to be made by dotted keys. -/
def writeBelow? (d : Datum) : Origin → List String → String → Entries → Option Entries
  | origin, [], key, entries => if origin = .dotted then write? key d entries else none
  | _, step :: path, key, entries =>
    match entries.lookup step with
    | none =>
      (writeBelow? d .dotted path key []).map fun inner =>
        entries.put step (.table .dotted inner)
    | some (.table .header _) | some (.value _) => none
    | some (.table origin inner) =>
      (writeBelow? d origin path key inner).map fun inner =>
        entries.put step (.table origin inner)
    | some (.tables items) =>
      (changeLast? (writeBelow? d .header path key) items).map fun items =>
        entries.put step (.tables items)

/-- Writes a value at a key, dotted or not, in the table that grows. -/
def assign? (path : List String) (key : String) (d : Datum) (entries : Entries) :
    Option Entries :=
  if path.isEmpty then write? key d entries else writeBelow? d .header path key entries

mutual

/-- A node as data. -/
def Node.toDatum : Node → Datum
  | .value d => d
  | .table _ entries => .record (recordOf entries)
  | .tables items => .list (listOf items)

/-- The entries of a table as fields. -/
def recordOf : List (String × Node) → List (String × Datum)
  | [] => []
  | (key, n) :: rest => (key, n.toDatum) :: recordOf rest

/-- The tables of a list as data. -/
def listOf : List (List (String × Node)) → List Datum
  | [] => []
  | entries :: rest => .record (recordOf entries) :: listOf rest

end

end Wiring.Toml
