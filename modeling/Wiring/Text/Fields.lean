/-!
# Cutting a text at a separator

`fields sep s` are the pieces of `s` between the occurrences of `sep`, empty ones included, so a
text with `n` separators has `n + 1` fields.
-/

namespace Wiring.Text

/-- The pieces between the occurrences of `sep`. -/
def pieces (sep : Char) : List Char → List (List Char)
  | [] => [[]]
  | c :: cs =>
    if c = sep then [] :: pieces sep cs
    else match pieces sep cs with
      | [] => [[c]]
      | piece :: rest => (c :: piece) :: rest

/-- There is always a first piece. -/
theorem pieces_ne_nil (sep : Char) (cs : List Char) : pieces sep cs ≠ [] := by
  cases cs with
  | nil => simp [pieces]
  | cons c cs => unfold pieces; split <;> (try split) <;> simp

/-- The pieces of `s` between the occurrences of `sep`. -/
def fields (sep : Char) (s : String) : List String :=
  (pieces sep s.toList).map String.ofList

/-- What follows `start` at the beginning of a list, if the list begins with it. -/
def after? : (start : List Char) → List Char → Option (List Char)
  | [], cs => some cs
  | _ :: _, [] => none
  | p :: ps, c :: cs => if p = c then after? ps cs else none

/-- A text cut at the first occurrence of `sep`. -/
def cutFirst? (sep : List Char) : List Char → Option (List Char × List Char)
  | [] => (after? sep []).map ([], ·)
  | c :: cs =>
    match after? sep (c :: cs) with
    | some rest => some ([], rest)
    | none => (cutFirst? sep cs).map fun (left, right) => (c :: left, right)

/-- A text cut at the last occurrence of `sep`. -/
def cutLast? (sep s : String) : Option (String × String) :=
  (cutFirst? sep.toList.reverse s.toList.reverse).map fun (right, left) =>
    (String.ofList left.reverse, String.ofList right.reverse)

end Wiring.Text
