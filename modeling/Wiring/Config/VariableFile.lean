import Wiring.Text.Property

/-!
# Variable files

A variable file sets variables, one in a line, unless a quote or a backslash keeps the line open.
Blanks around the key and the value do not count, and a hash sign after a blank starts a comment.
Values may be quoted and may refer to variables that are set in the environment or were set further
up. What stands after a line that is not in the format has no effect.
-/

namespace Wiring.VariableFile

/-- A piece of a value. -/
inductive Piece where
  | char (c : Char)
  /-- The value of a variable, or nothing if it has none. -/
  | variable (name : String)
  deriving DecidableEq, Repr

/-- A variable that a file sets. -/
structure Assignment where
  key : String
  /-- The value; of an empty one nothing is remembered for later lines. -/
  pieces : List Piece
  deriving DecidableEq, Repr

/-! ## Lines -/

/-- What the end of a line depends on. -/
inductive LineState where
  | complete
  /-- After a blank. -/
  | blank
  /-- After a backslash outside quotes. -/
  | escape
  | quoted (quote : Char)
  /-- After a backslash inside quotes. -/
  | quotedEscape (quote : Char)
  deriving DecidableEq, Repr

/-- The single quote. -/
def singleQuote : Char := Char.ofNat 39

/-- What a character outside quotes leads to. -/
def LineState.enter (c : Char) : LineState :=
  if c = '\\' then escape
  else if c = '"' ∨ c = singleQuote then quoted c
  else complete

/-- What the next character of a line leads to. -/
def LineState.next : LineState → Char → LineState
  | complete, c => if Text.isBlank c && c != '\n' && c != '\r' then blank else enter c
  | blank, c => enter c
  | escape, _ => complete
  | quoted q, c => if c = '\\' then quotedEscape q else if c = q then complete else quoted q
  | quotedEscape q, _ => quoted q

/-- A line up to its comment, and what its end depends on; no state if a comment ended it. -/
def scanLine : LineState → List Char → List Char × Option LineState
  | s, [] => ([], some s)
  | s, c :: cs =>
    if s = .blank && c = '#' then ([], none)
    else
      let (kept, s) := scanLine (s.next c) cs
      (c :: kept, s)

/-- The lines of a text, each with its line end. -/
def physicalLines : List Char → List (List Char)
  | [] => []
  | c :: cs =>
    if c = '\n' then [c] :: physicalLines cs
    else match physicalLines cs with
      | [] => [[c]]
      | line :: lines => (c :: line) :: lines

/-- The lines that belong together, without comments, in order; `none` stands for the end of what
can be read. A line whose text starts with a hash sign is a comment as a whole. -/
def logicalLines (open' : List Char) (s : LineState) : List (List Char) → List (Option (List Char))
  | [] => if s = .complete then [] else [none]
  | line :: lines =>
    if (Text.dropBlanks (open' ++ line)).head? == some '#' then
      some [] :: logicalLines [] .complete lines
    else
      let (kept, s) := scanLine s line
      match s with
      | none => some (open' ++ kept) :: logicalLines [] .complete lines
      | some .complete => some (open' ++ kept) :: logicalLines [] .complete lines
      | some s => logicalLines (open' ++ kept) s lines

/-! ## Values -/

/-- Letters and numbers, of which the name of a variable in a value consists. -/
def alphanumeric : Text.Ranges :=
  (Text.Property.alphabetic .seventeen).union (Text.Category.selected .seventeen ["Nd", "Nl", "No"])

/-- Whether a character is a letter or a number. -/
def isAlphanumeric (c : Char) : Bool :=
  alphanumeric.has c

/-- What the next character of a value means. -/
inductive Mode where
  | plain
  | escaped
  /-- Between single quotes. -/
  | strong
  /-- The name of a variable after its sign. -/
  | name (reversed : List Char)
  /-- The name of a variable in braces. -/
  | braced (reversed : List Char)
  /-- After a blank: only blanks and a comment may follow. -/
  | ending
  deriving DecidableEq, Repr

/-- The variable whose name was read. -/
def named (reversed : List Char) : Piece :=
  .variable (String.ofList reversed.reverse)

/-- The pieces of a value; `weak` holds between double quotes. A quote right after the name of a
variable without braces stands for itself. -/
def pieces? (weak : Bool) : Mode → List Char → Option (List Piece)
  | .braced _, [] | .strong, [] => none
  | .name reversed, [] => if weak then none else some [named reversed]
  | _, [] => if weak then none else some []
  | .ending, c :: cs =>
    if c = ' ' ∨ c = '\t' then pieces? weak .ending cs
    else if c = '#' then (if weak then none else some [])
    else none
  | .escaped, c :: cs =>
    if ['\\', singleQuote, '"', '$', ' '].contains c then
      (pieces? weak .plain cs).map (.char c :: ·)
    else if c = 'n' then (pieces? weak .plain cs).map (.char '\n' :: ·)
    else none
  | .strong, c :: cs =>
    if c = singleQuote then pieces? weak .plain cs
    else (pieces? weak .strong cs).map (.char c :: ·)
  | .name reversed, c :: cs =>
    if isAlphanumeric c then pieces? weak (.name (c :: reversed)) cs
    else if c = '{' && reversed.isEmpty then pieces? weak (.braced []) cs
    else if c = '$' then (pieces? weak (.name []) cs).map (named reversed :: ·)
    else (pieces? weak .plain cs).map fun ps => named reversed :: .char c :: ps
  | .braced reversed, c :: cs =>
    if c = '}' then (pieces? weak .plain cs).map (named reversed :: ·)
    else pieces? weak (.braced (c :: reversed)) cs
  | .plain, c :: cs =>
    if c = '$' then pieces? weak (.name []) cs
    else if weak then
      if c = '"' then pieces? false .plain cs
      else if c = '\\' then pieces? weak .escaped cs
      else (pieces? weak .plain cs).map (.char c :: ·)
    else if c = singleQuote then pieces? weak .strong cs
    else if c = '"' then pieces? true .plain cs
    else if c = '\\' then pieces? weak .escaped cs
    else if c = ' ' ∨ c = '\t' then pieces? weak .ending cs
    else (pieces? weak .plain cs).map (.char c :: ·)

/-! ## Assignments -/

/-- Whether a key may go on with a character. -/
def isKeyChar (c : Char) : Bool :=
  c.isAlphanum || c == '_' || c == '.'

/-- Takes a key from the front of a line. -/
def key? : List Char → Option (String × List Char)
  | [] => none
  | c :: cs =>
    if c.isAlpha || c == '_' then
      let (name, rest) := cs.span isKeyChar
      some (String.ofList (c :: name), Text.dropBlanks rest)
    else none

/-- What follows an equals sign and blanks. -/
def afterEquals? : List Char → Option (List Char)
  | '=' :: cs => some (Text.dropBlanks cs)
  | _ => none

/-- The key of a line and the text of its value. The word `export` may stand in front of the key. -/
def entry? (cs : List Char) : Option (String × List Char) := do
  let (key, rest) ← key? cs
  match afterEquals? rest with
  | some value => return (key, value)
  | none =>
    if key = "export" then
      let (key, rest) ← key? rest
      return (key, ← afterEquals? rest)
    else none

/-- What a line sets: nothing if it is empty or a comment. -/
def assignment? (line : List Char) : Option (Option Assignment) := do
  let cs := Text.dropBlanks (Text.dropBlanks line.reverse).reverse
  if cs.isEmpty || cs.head? == some '#' then return none
  else
    let (key, value) ← entry? cs
    if value.isEmpty || value.head? == some '#' then return some { key, pieces := [] }
    else return some { key, pieces := ← pieces? false .plain value }

/-- What some lines set, up to the first that is not in the format. -/
def assignments : List (Option (List Char)) → List Assignment
  | [] | none :: _ => []
  | some line :: lines =>
    match assignment? line with
    | none => []
    | some a? => a?.toList ++ assignments lines

/-- What a variable file sets, in order. A mark of byte order in front does not count. -/
def read (text : String) : List Assignment :=
  let cs := match text.toList with
    | c :: cs => if c.toNat = 0xFEFF then cs else c :: cs
    | [] => []
  assignments (logicalLines [] .complete (physicalLines cs))

end Wiring.VariableFile
