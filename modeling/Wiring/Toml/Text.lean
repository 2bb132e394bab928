import Wiring.Text.Ranges

/-!
# Texts of a configuration file

Texts stand between double quotes, with escapes, or between single quotes, as they are. Three quotes
let a text go over several lines: a line end right after them does not count, line ends in the text
are single feeds, and up to two quotes may stand right before the closing three.
-/

namespace Wiring.Toml

/-- Whether a character is a blank within a line. -/
def isBlank (c : Char) : Bool :=
  c == ' ' || c == '\t'

/-- Drops blanks. -/
def dropBlanks (cs : List Char) : List Char :=
  cs.dropWhile isBlank

/-- Whether a character may stand in a line: the controls may not, the tabulator apart. -/
def isPrintable (c : Char) : Bool :=
  c == '\t' || (32 ≤ c.toNat && c.toNat != 127)

/-- What follows the end of a line, which is a feed, perhaps with a return in front of it. -/
def lineEnd? : List Char → Option (List Char)
  | '\n' :: cs => some cs
  | '\r' :: '\n' :: cs => some cs
  | _ => none

/-- Drops blanks and line ends. -/
def dropSpace : List Char → List Char
  | '\n' :: cs | ' ' :: cs | '\t' :: cs => dropSpace cs
  | '\r' :: '\n' :: cs => dropSpace cs
  | cs => cs

/-- The single quote. -/
def singleQuote : Char := Char.ofNat 39

/-- The character with a code point given in so many hexadecimal digits. -/
def codePoint? (width : Nat) (cs : List Char) : Option (Char × List Char) :=
  let digits := cs.take width
  if digits.length < width then none
  else
    match Text.Ranges.hexNumber? digits with
    | some n =>
      if n < 0xD800 ∨ (0xDFFF < n ∧ n < 0x110000) then some (Char.ofNat n, cs.drop width) else none
    | none => none

/-- The character that an escape stands for, after its backslash. -/
def escape? : List Char → Option (Char × List Char)
  | 'b' :: cs => some ('\x08', cs)
  | 't' :: cs => some ('\t', cs)
  | 'n' :: cs => some ('\n', cs)
  | 'f' :: cs => some ('\x0c', cs)
  | 'r' :: cs => some ('\r', cs)
  | '"' :: cs => some ('"', cs)
  | '\\' :: cs => some ('\\', cs)
  | 'u' :: cs => codePoint? 4 cs
  | 'U' :: cs => codePoint? 8 cs
  | _ => none

/-- Puts characters in front of what was taken. -/
def prepend (piece : List Char) (t : Option (List Char × List Char)) :
    Option (List Char × List Char) :=
  t.map fun (content, rest) => (piece ++ content, rest)

/-- What follows a backslash at the end of a line: the next line from its first visible character.
-/
def brokenLine? (cs : List Char) : Option (List Char) :=
  (lineEnd? (dropBlanks cs)).map dropSpace

/-- The content of a text of one line, up to its quote. -/
def line? (quote : Char) : Nat → List Char → Option (List Char × List Char)
  | 0, _ | _, [] => none
  | n + 1, c :: cs =>
    if c = quote then some ([], cs)
    else if c = '\\' && quote = '"' then
      match escape? cs with
      | some (c, cs) => prepend [c] (line? quote n cs)
      | none => none
    else if isPrintable c then prepend [c] (line? quote n cs)
    else none

/-- The content of a text of several lines, up to its three quotes. -/
def lines? (quote : Char) : Nat → List Char → Option (List Char × List Char)
  | 0, _ | _, [] => none
  | n + 1, c :: cs =>
    if c = quote then
      let quotes := (c :: cs).takeWhile (· == quote)
      if quotes.length < 3 then
        prepend quotes (lines? quote n (cs.drop (quotes.length - 1)))
      else
        let kept := min (quotes.length - 3) 2
        some (List.replicate kept quote, (c :: cs).drop (kept + 3))
    else
      match lineEnd? (c :: cs) with
      | some cs => prepend ['\n'] (lines? quote n cs)
      | none =>
        if c = '\\' && quote = '"' then
          match brokenLine? cs, escape? cs with
          | some cs, _ => lines? quote n cs
          | none, some (c, cs) => prepend [c] (lines? quote n cs)
          | none, none => none
        else if isPrintable c then prepend [c] (lines? quote n cs)
        else none

/-- Takes a text of one line with the given quote. -/
def lineText? (quote : Char) : List Char → Option (String × List Char)
  | c :: cs =>
    if c = quote then
      (line? quote (cs.length + 1) cs).map fun (content, rest) => (String.ofList content, rest)
    else none
  | [] => none

/-- Takes a text, of one line or of several. -/
def text? (cs : List Char) : Option (String × List Char) :=
  match cs with
  | [] => none
  | quote :: _ =>
    if quote = '"' ∨ quote = singleQuote then
      if [quote, quote, quote].isPrefixOf cs then
        let cs := cs.drop 3
        let cs := (lineEnd? cs).getD cs
        (lines? quote (cs.length + 1) cs).map fun (content, rest) => (String.ofList content, rest)
      else lineText? quote cs
    else none

end Wiring.Toml
