import Wiring.Datum.Decode

/-!
# Request methods

Requests carry any token as their method; routes know seven of them, the verbs.
-/

namespace Wiring

/-- The request methods a route can have. -/
inductive Verb where
  | get | head | post | put | patch | delete | options
  deriving DecidableEq, Repr, Inhabited

namespace Verb

/-- All verbs, in the order in which tables list them. -/
def all : List Verb :=
  [.get, .head, .post, .put, .patch, .delete, .options]

/-- The method token of a verb. -/
def name : Verb → String
  | get => "GET"
  | head => "HEAD"
  | post => "POST"
  | put => "PUT"
  | patch => "PATCH"
  | delete => "DELETE"
  | options => "OPTIONS"

/-- The verb with exactly this token. -/
def ofToken? (s : String) : Option Verb :=
  all.find? (·.name == s)

/-- The verb a text names, in any case. -/
def ofName? (s : String) : Option Verb :=
  ofToken? s.toUpper

/-- The verbs are listed once each, and their tokens tell them apart. -/
theorem ofToken?_name (v : Verb) : ofToken? v.name = some v := by
  cases v <;> decide

/-- A text is the token of at most one verb. -/
theorem eq_name_of_ofToken? {s : String} {v : Verb} (h : ofToken? s = some v) : s = v.name := by
  have := List.find?_some h
  simpa using (beq_iff_eq.mp this).symm

instance : ToDatum Verb := ⟨fun v => .text v.name⟩

/-- The verb that a tree names. -/
def ofDatum? (s : Datum.Style) (d : Datum) : Option Verb :=
  d.caseName? s >>= ofToken?

end Verb

/-- The characters that a request method is made of, letters and digits apart. -/
def methodSigns : List Char :=
  ['!', '#', '$', '%', '&', Char.ofNat 39, '*', '+', '-', '.', '^', '_', Char.ofNat 96, '|', '~']

/-- Whether a text can be the method of a request: a token of at least one character. -/
def isMethodToken (s : String) : Bool :=
  !s.isEmpty && s.toList.all fun c => c.isAlphanum || methodSigns.contains c

end Wiring
