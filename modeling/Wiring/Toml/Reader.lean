import Wiring.Toml.Number
import Wiring.Toml.Table

/-!
# Reading a configuration file

A file is a sequence of lines: values under keys, and headers that say which table the values after
them belong to. A text that is not in the format has no meaning at all.
-/

namespace Wiring.Toml

/-- What follows a comment, if there is one; controls have no place in it. -/
def dropComment? : List Char → Option (List Char)
  | '#' :: cs =>
    let rest := cs.dropWhile isPrintable
    match rest with
    | [] => some []
    | _ => if (lineEnd? rest).isSome then some rest else none
  | cs => some cs

/-- What follows the rest of a line with nothing but blanks and a comment. -/
def endLine? (cs : List Char) : Option (List Char) := do
  let rest ← dropComment? (dropBlanks cs)
  if rest.isEmpty then return [] else lineEnd? rest

/-- Drops blanks, comments and line ends. -/
def dropLines? : Nat → List Char → Option (List Char)
  | 0, _ => none
  | n + 1, cs =>
    match dropSpace cs with
    | '#' :: cs => do dropLines? n (← dropComment? ('#' :: cs))
    | cs => some cs

/-- Whether a character may stand in a key without quotes. -/
def isBare (c : Char) : Bool :=
  c.isAlphanum || c == '_' || c == '-'

/-- Takes one part of a key. -/
def keyPart? (cs : List Char) : Option (String × List Char) :=
  match cs with
  | '"' :: _ => lineText? '"' cs
  | c :: _ =>
    if c = singleQuote then lineText? singleQuote cs
    else
      let (name, rest) := cs.span isBare
      if name.isEmpty then none else some (String.ofList name, rest)
  | [] => none

/-- Takes a key of at most so many parts with dots between them, and the blanks around it. -/
def keyOf? : Nat → List Char → Option (List String × List Char)
  | 0, _ => none
  | n + 1, cs => do
    let (part, rest) ← keyPart? (dropBlanks cs)
    match dropBlanks rest with
    | '.' :: rest =>
      let (parts, rest) ← keyOf? n rest
      return (part :: parts, rest)
    | rest => return ([part], rest)

/-- How many parts a key may have, and how many lists and tables may stand around each other. -/
def maxDepth : Nat := 79

/-- Takes a key with its dots, and the blanks around it. -/
def key? (cs : List Char) : Option (List String × List Char) :=
  keyOf? maxDepth cs

/-- The parts of a key before its last, and the last. -/
def cutKey? (parts : List String) : Option (List String × String) :=
  parts.getLast?.map fun last => (parts.dropLast, last)

/-- Takes items with commas between them up to a bracket; a comma may follow the last, and lines may
end anywhere. -/
def items? (value : List Char → Option (Datum × List Char)) :
    Nat → List Char → Option (List Datum × List Char)
  | 0, _ => none
  | n + 1, cs => do
    match ← dropLines? cs.length.succ cs with
    | ']' :: rest => return ([], rest)
    | cs =>
      let (d, rest) ← value cs
      match ← dropLines? rest.length.succ rest with
      | ',' :: rest =>
        let (ds, rest) ← items? value n rest
        return (d :: ds, rest)
      | ']' :: rest => return ([d], rest)
      | _ => none

/-- Takes the pairs of a table in one line, after its brace or a comma. -/
def pairs? (value : List Char → Option (Datum × List Char)) :
    Nat → Entries → List Char → Option (Entries × List Char)
  | 0, _, _ => none
  | n + 1, entries, cs => do
    let (parts, rest) ← key? cs
    let (path, key) ← cutKey? parts
    let (d, rest) ← value (dropBlanks (← char? '=' rest))
    let entries ← assign? path key d entries
    match dropBlanks rest with
    | ',' :: rest => pairs? value n entries rest
    | '}' :: rest => return (entries, rest)
    | _ => none

/-- Takes a value, with at most so many lists and tables around each other. -/
def value? : Nat → List Char → Option (Datum × List Char)
  | _, [] => none
  | depth, c :: cs =>
    if c = '"' ∨ c = singleQuote then (text? (c :: cs)).map fun (s, rest) => (.text s, rest)
    else if c = '[' then
      match depth with
      | 0 => none
      | depth + 1 =>
        (items? (value? depth) cs.length.succ cs).map fun (ds, rest) => (.list ds, rest)
    else if c = '{' then
      match depth with
      | 0 => none
      | depth + 1 =>
        match dropBlanks cs with
        | '}' :: rest => some (.record [], rest)
        | cs =>
          (pairs? (value? depth) cs.length.succ [] cs).map fun (entries, rest) =>
            (.record (recordOf entries), rest)
    else if "true".toList.isPrefixOf (c :: cs) then some (.bool true, cs.drop 3)
    else if "false".toList.isPrefixOf (c :: cs) then some (.bool false, cs.drop 4)
    else number? (c :: cs)

/-- What is known after some lines: the tables so far, and the path of the one that grows. -/
structure Document where
  entries : Entries := []
  current : List String := []

namespace Document

/-- The document after a header. -/
def enter? (d : Document) (isList : Bool) (parts : List String) : Option Document := do
  let (path, key) ← cutKey? parts
  let change := if isList then extend? key else define? key
  return { entries := ← within? change path d.entries, current := parts }

/-- The document after a value. -/
def write? (d : Document) (parts : List String) (v : Datum) : Option Document := do
  let (path, key) ← cutKey? parts
  return { d with entries := ← within? (assign? path key v) d.current d.entries }

/-- The document after one more line, and what follows the line. -/
def line? (d : Document) (cs : List Char) : Option (Document × List Char) := do
  match cs with
  | '[' :: '[' :: cs =>
    let (parts, rest) ← key? cs
    let rest ← endLine? (← char? ']' (← char? ']' rest))
    return (← d.enter? true parts, rest)
  | '[' :: cs =>
    let (parts, rest) ← key? cs
    let rest ← endLine? (← char? ']' rest)
    return (← d.enter? false parts, rest)
  | cs =>
    let (parts, rest) ← key? cs
    let (v, rest) ← value? maxDepth (dropBlanks (← char? '=' rest))
    let rest ← endLine? rest
    return (← d.write? parts v, rest)

/-- The document after all lines. -/
def lines? (d : Document) : Nat → List Char → Option Document
  | 0, _ => none
  | n + 1, cs => do
    match ← dropLines? cs.length.succ cs with
    | [] => return d
    | cs =>
      let (d, rest) ← d.line? cs
      d.lines? n rest

end Document

/-- The data that a configuration file spells. A mark of byte order in front does not count. -/
def read? (text : String) : Option Datum :=
  let cs := match text.toList with
    | c :: cs => if c.toNat = 0xFEFF then cs else c :: cs
    | [] => []
  (Document.lines? {} (cs.length + 1) cs).map fun d => .record (recordOf d.entries)

end Wiring.Toml
