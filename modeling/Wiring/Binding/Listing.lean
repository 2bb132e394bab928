import Wiring.Binding.Basic
import Wiring.Text.Quoted

/-!
# Values as listings show them

Listings name the case of every value and its fields, so that a text, a number and a list cannot be
taken for each other.
-/

namespace Wiring

namespace Text

/-- Items in brackets, with commas between them. -/
def bracketed (items : List String) : String :=
  "[" ++ ", ".intercalate items ++ "]"

/-- A case with its named fields. -/
def withFields (name : String) (fields : List (String × String)) : String :=
  name ++ " \x7b " ++ ", ".intercalate (fields.map fun (n, v) => n ++ ": " ++ v) ++ " \x7d"

/-- A value that may be missing. -/
def present : Option String → String
  | some s => "Some(" ++ s ++ ")"
  | none => "None"

end Text

/-- The key of an entry with the name of its case. -/
def ArrayKey.inspect : ArrayKey → String
  | .index n => "Index(" ++ toString n.toInt ++ ")"
  | .name s => "Name(" ++ Text.quoted s ++ ")"

namespace Literal

mutual

/-- A literal with the names of its cases. -/
def inspect : Literal → String
  | null => "Null"
  | bool b => "Bool(" ++ toString b ++ ")"
  | int n => "Int(" ++ toString n.toInt ++ ")"
  | float x => "Float(" ++ Decimal.inspected.write x ++ ")"
  | str s => "Str(" ++ Text.quoted s ++ ")"
  | list items => "List(" ++ Text.bracketed (inspectItems items) ++ ")"

/-- The items of a list. -/
def inspectItems : List Literal → List String
  | [] => []
  | l :: rest => l.inspect :: inspectItems rest

end

end Literal

end Wiring
