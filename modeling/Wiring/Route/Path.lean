import Wiring.Text.Fields

/-!
# Paths of routes

A path is its non-empty segments; how many slashes stand between them, or at the ends, does not
matter. In a template a segment in braces captures what stands in its place.
-/

namespace Wiring.Route

/-- One segment of a template. -/
inductive Segment where
  | literal (text : String)
  | capture (name : String)
  deriving DecidableEq, Repr, Inhabited

/-- The non-empty segments of a path. -/
def segments (path : String) : List String :=
  (Text.fields '/' path).filter (· ≠ "")

namespace Segment

/-- The name between the braces of a segment, if it has both and something between them. -/
def captured? (s : String) : Option String :=
  match s.toList with
  | '{' :: rest =>
    match rest.reverse with
    | '}' :: name => if name.isEmpty then none else some (String.ofList name.reverse)
    | _ => none
  | _ => none

/-- The segment of a template that a segment of its path is. -/
def ofText (s : String) : Segment :=
  match captured? s with
  | some name => capture name
  | none => literal s

/-- Whether a segment captures nothing. -/
def isLiteral : Segment → Bool
  | literal _ => true
  | capture _ => false

/-- The name that a segment captures under. -/
def name? : Segment → Option String
  | literal _ => none
  | capture name => some name

end Segment

/-- The template that a path is. -/
def template (path : String) : List Segment :=
  (segments path).map Segment.ofText

/-- The names that a template captures, in order. -/
def captures (path : String) : List String :=
  (template path).filterMap Segment.name?

/-- The path with one slash in front of each segment; `/` if there is none. -/
def normalize (path : String) : String :=
  "/" ++ "/".intercalate (segments path)

/-- The path behind a prefix. -/
def join (start path : String) : String :=
  normalize (start ++ "/" ++ path)

/-- The text of a pattern that has to match a whole segment. -/
def anchored (requirement : String) : String :=
  "^(?:" ++ requirement ++ ")$"

end Wiring.Route
