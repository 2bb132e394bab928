import Wiring.Datum.Basic
import Wiring.Decimal.Format

/-!
# Writing JSON text

Two layouts: `compact` without any blank, and `pretty` with one item a line, indented by two blanks
a level. A double that is no number is written as `null`.
-/

namespace Wiring.Json

/-- One character of a text as it stands between the quotes. -/
def escaped (c : Char) : List Char :=
  match c with
  | '"' => ['\\', '"']
  | '\\' => ['\\', '\\']
  | '\n' => ['\\', 'n']
  | '\r' => ['\\', 'r']
  | '\t' => ['\\', 't']
  | '\x08' => ['\\', 'b']
  | '\x0c' => ['\\', 'f']
  | c =>
    if c.toNat < 0x20 then
      ['\\', 'u', '0', '0'] ++ Nat.toDigits 16 (c.toNat / 16) ++ Nat.toDigits 16 (c.toNat % 16)
    else [c]

/-- A text in quotes. -/
def quoted (s : String) : String :=
  "\"" ++ String.ofList (s.toList.flatMap escaped) ++ "\""

/-- A number with fraction, or `null` if it is none. -/
def floatText (x : Float) : String :=
  if x.isNaN || x.isInf then "null" else Decimal.dataText.write x

/-- What is written for a node without items. -/
def scalar : Datum → String
  | .null => "null"
  | .bool b => if b then "true" else "false"
  | .int n => toString n
  | .float x => floatText x
  | .text s => quoted s
  | .list _ => "[]"
  | .record _ => "{}"
  | .unreadable => "null"

mutual

/-- JSON text without blanks. -/
def compact : Datum → String
  | .list items => "[" ++ compactItems items ++ "]"
  | .record fields => "\x7b" ++ compactFields fields ++ "\x7d"
  | d => scalar d

/-- Items with commas between them. -/
def compactItems : List Datum → String
  | [] => ""
  | [d] => compact d
  | d :: rest => compact d ++ "," ++ compactItems rest

/-- Fields with commas between them. -/
def compactFields : List (String × Datum) → String
  | [] => ""
  | [(n, d)] => quoted n ++ ":" ++ compact d
  | (n, d) :: rest => quoted n ++ ":" ++ compact d ++ "," ++ compactFields rest

end

/-- The start of a line at a level. -/
def newline (level : Nat) : String :=
  String.ofList ('\n' :: List.replicate (2 * level) ' ')

mutual

/-- JSON text with one item a line, for a node that stands at a level. -/
def prettyAt (level : Nat) : Datum → String
  | .list (d :: rest) =>
    "[" ++ newline (level + 1) ++ prettyAt (level + 1) d ++ prettyItems (level + 1) rest ++
      newline level ++ "]"
  | .record ((n, d) :: rest) =>
    "\x7b" ++ newline (level + 1) ++ quoted n ++ ": " ++ prettyAt (level + 1) d ++
      prettyFields (level + 1) rest ++ newline level ++ "\x7d"
  | d => scalar d

/-- The items after the first, each on its line. -/
def prettyItems (level : Nat) : List Datum → String
  | [] => ""
  | d :: rest => "," ++ newline level ++ prettyAt level d ++ prettyItems level rest

/-- The fields after the first, each on its line. -/
def prettyFields (level : Nat) : List (String × Datum) → String
  | [] => ""
  | (n, d) :: rest =>
    "," ++ newline level ++ quoted n ++ ": " ++ prettyAt level d ++ prettyFields level rest

end

/-- JSON text with one item a line. -/
def pretty (d : Datum) : String :=
  prettyAt 0 d

end Wiring.Json
