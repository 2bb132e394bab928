import Wiring.Binding.Basic
import Wiring.Datum.Decode

/-!
# Service entries

What the identifiers of a project stand for before the service graph is resolved: a service with the
bindings of its parameters, another identifier, or several classes among which nobody has chosen.
-/

namespace Wiring

/-- Services that need no class of the project. -/
inductive Builtin where
  | container | config
  deriving DecidableEq, Repr, Inhabited

/-- Where a service comes from. -/
inductive Origin where
  | discovered
  | manual
  | builtin (which : Builtin)
  deriving DecidableEq, Repr, Inhabited

/-- A static method that builds a service in place of a constructor. -/
structure Factory where
  owner : String
  method : String
  deriving DecidableEq, Repr, Inhabited

/-- How one identifier is built. -/
structure ServiceDescriptor where
  className : String
  /-- The bindings of the parameters, in the order of declaration. -/
  params : List (String × Binding) := []
  singleton : Bool := true
  factory? : Option Factory := none
  origin : Origin := .discovered
  deriving BEq, Repr, Inhabited

/-- What an identifier stands for. -/
inductive ServiceEntry where
  | service (descriptor : ServiceDescriptor)
  /-- Several classes claim the identifier. -/
  | ambiguous (candidates : List String)
  | alias (target : String)
  deriving BEq, Repr, Inhabited

/-- The entries of all identifiers, in the order of their registration. -/
structure ServiceMap where
  entries : List (String × ServiceEntry) := []
  /-- No identifier is registered twice. -/
  nodup : (entries.map (·.1)).Nodup := by exact .nil
  deriving Repr, Inhabited

instance : BEq ServiceMap := ⟨fun a b => a.entries == b.entries⟩

namespace ServiceMap

/-- The entry of an identifier. -/
def get? (m : ServiceMap) (id : String) : Option ServiceEntry :=
  m.entries.lookup id

/-- Whether an identifier is registered. -/
def contains (m : ServiceMap) (id : String) : Bool :=
  (m.get? id).isSome

/-- The registered identifiers. -/
def ids (m : ServiceMap) : List String :=
  m.entries.map (·.1)

/-- The number of registered identifiers. -/
def size (m : ServiceMap) : Nat :=
  m.entries.length

/-- Entries with one more: a new identifier goes to the end, a known one keeps its place. -/
def place (id : String) (entry : ServiceEntry) :
    List (String × ServiceEntry) → List (String × ServiceEntry)
  | [] => [(id, entry)]
  | (i, e) :: rest => if id = i then (id, entry) :: rest else (i, e) :: place id entry rest

/-- Placing an entry adds its identifier at the end, or nothing if it is known. -/
theorem map_place (id : String) (entry : ServiceEntry) (entries : List (String × ServiceEntry)) :
    (place id entry entries).map (·.1) =
      if id ∈ entries.map (·.1) then entries.map (·.1) else entries.map (·.1) ++ [id] := by
  induction entries with
  | nil => simp [place]
  | cons e rest ih =>
    obtain ⟨i, e⟩ := e
    by_cases h : id = i
    · simp [place, h]
    · simp only [place, h, if_false, List.map_cons, ih, List.mem_cons, false_or]
      split <;> simp

/-- An entry takes the place of one with its identifier, so none comes twice. -/
theorem nodup_place {id : String} {entry : ServiceEntry} {entries : List (String × ServiceEntry)}
    (h : (entries.map (·.1)).Nodup) : ((place id entry entries).map (·.1)).Nodup := by
  rw [map_place]
  split
  · exact h
  · next hid =>
    exact List.nodup_append.2 ⟨h, by simp, fun a ha b hb => by
      rintro rfl
      exact hid (List.mem_singleton.1 hb ▸ ha)⟩

/-- The map after registering an entry. -/
def insert (m : ServiceMap) (id : String) (entry : ServiceEntry) : ServiceMap :=
  ⟨place id entry m.entries, nodup_place m.nodup⟩

/-- An entry is found under its identifier, and all others as before. -/
theorem lookup_place (id other : String) (entry : ServiceEntry)
    (entries : List (String × ServiceEntry)) :
    (place id entry entries).lookup other =
      if other = id then some entry else entries.lookup other := by
  induction entries with
  | nil => simp only [place, List.lookup_cons, List.lookup_nil]; split <;> simp_all
  | cons e rest ih =>
    obtain ⟨i, e⟩ := e
    simp only [place]
    split
    · next h => subst h; simp only [List.lookup_cons]; split <;> simp_all
    · next h => simp only [List.lookup_cons, ih]; split <;> simp_all; intro h'; simp_all

/-- Registering changes what one identifier stands for and nothing else. -/
theorem get?_insert (m : ServiceMap) (id other : String) (entry : ServiceEntry) :
    (m.insert id entry).get? other = if other = id then some entry else m.get? other :=
  lookup_place id other entry m.entries

/-- Where no key occurs twice, looking up a key finds what it is paired with. -/
theorem lookup_eq_some_iff_mem {α : Type} {id : String} {a : α} {entries : List (String × α)}
    (h : (entries.map (·.1)).Nodup) : entries.lookup id = some a ↔ (id, a) ∈ entries := by
  induction entries with
  | nil => simp
  | cons e rest ih =>
    obtain ⟨i, b⟩ := e
    obtain ⟨hi, hrest⟩ := List.nodup_cons.1 h
    by_cases hid : id = i
    · subst hid
      have hno : (id, a) ∉ rest := fun hm => hi (List.mem_map.2 ⟨_, hm, rfl⟩)
      simp [hno, eq_comm]
    · have hne : (id == i) = false := beq_false_of_ne hid
      simp [List.lookup_cons, hne, hid, ih hrest]

/-- An identifier stands for an entry exactly if it was registered with it. -/
theorem get?_eq_some_iff {m : ServiceMap} {id : String} {entry : ServiceEntry} :
    m.get? id = some entry ↔ (id, entry) ∈ m.entries :=
  lookup_eq_some_iff_mem m.nodup

/-- The identifiers of a map are those that it has entries for. -/
theorem mem_ids_iff {m : ServiceMap} {id : String} : id ∈ m.ids ↔ (m.get? id).isSome := by
  constructor
  · intro h
    obtain ⟨⟨i, e⟩, he, rfl⟩ := List.mem_map.1 h
    rw [get?_eq_some_iff.2 he, Option.isSome_some]
  · intro h
    obtain ⟨e, he⟩ := Option.isSome_iff_exists.1 h
    exact List.mem_map_of_mem (get?_eq_some_iff.1 he)

end ServiceMap

namespace Builtin

/-- The name of a builtin. -/
def name : Builtin → String
  | container => "container"
  | config => "config"

/-- The builtin with this name. -/
def ofName? : String → Option Builtin
  | "container" => some container
  | "config" => some config
  | _ => none

end Builtin

namespace Origin

/-- The origin as a data tree. -/
def toDatum : Origin → Datum
  | discovered => .text "discovered"
  | manual => .text "manual"
  | builtin which => .record [("builtin", .text which.name)]

/-- The origin that a data tree stands for. -/
def ofDatum? (d : Datum) : Option Origin :=
  match d.caseName? .json with
  | some "discovered" => some discovered
  | some "manual" => some manual
  | some _ => none
  | none =>
    match d with
    | .record [("builtin", which)] => (which.caseName? .json >>= Builtin.ofName?).map builtin
    | _ => none

end Origin

namespace Factory

/-- The factory as a record. -/
def toDatum (f : Factory) : Datum :=
  .record [("class", .text f.owner), ("method", .text f.method)]

/-- The factory that a record stands for. -/
def ofDatum? (d : Datum) : Option Factory := do
  match ← d.columns? ["class", "method"] with
  | [owner, method] =>
    return ⟨← Datum.required Datum.text? owner, ← Datum.required Datum.text? method⟩
  | _ => none

end Factory

end Wiring
