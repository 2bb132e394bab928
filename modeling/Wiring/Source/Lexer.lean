import Wiring.Source.Literal
import Wiring.Text.Property
import Wiring.Text.Quoted

/-!
# From a source text to token trees

A text is cut into marks from left to right: blanks and comments are skipped, and each mark is a
token or a bracket. The marks are then nested into trees, which fails when brackets do not match. A
comment that documents what follows it stands for an attribute that holds its text.
-/

namespace Wiring.Source

/-- A token or a bracket. -/
inductive Mark where
  | token (t : Token)
  | opened (d : Delimiter)
  | closed (d : Delimiter)

namespace Lexer

/-- Whether a character is blank in a source text; the two marks of direction are. -/
def isBlank (c : Char) : Bool :=
  Text.isBlank c || c.toNat == 0x200E || c.toNat == 0x200F

/-- A line up to its end, which may be a return and a feed, and what follows. -/
def takeLine : List Char → List Char × List Char
  | [] => ([], [])
  | '\n' :: cs => ([], '\n' :: cs)
  | '\r' :: '\n' :: cs => ([], '\n' :: cs)
  | c :: cs =>
    let (line, rest) := takeLine cs
    (c :: line, rest)

/-- The content of a comment in marks, after the opening mark, and what follows the closing one.
Comments nest. -/
def takeBlock? (depth : Nat) : List Char → Option (List Char × List Char)
  | [] => none
  | '/' :: '*' :: cs =>
    (takeBlock? (depth + 1) cs).map fun (content, rest) => ('/' :: '*' :: content, rest)
  | '*' :: '/' :: cs =>
    match depth with
    | 0 => some ([], cs)
    | depth + 1 => (takeBlock? depth cs).map fun (content, rest) => ('*' :: '/' :: content, rest)
  | c :: cs => (takeBlock? depth cs).map fun (content, rest) => (c :: content, rest)

/-- Whether a line comment, after its two strokes, documents something. -/
def isDocLine : List Char → Bool
  | '!' :: _ => true
  | '/' :: '/' :: _ => false
  | '/' :: _ => true
  | _ => false

/-- Whether a comment in marks, after the opening mark, documents something. -/
def isDocBlock : List Char → Bool
  | '!' :: _ => true
  | '*' :: '/' :: _ => false
  | '*' :: '*' :: _ => false
  | '*' :: _ => true
  | _ => false

/-- Skips blanks and the comments that document nothing. -/
def skipBlanks : Nat → List Char → List Char
  | 0, cs => cs
  | n + 1, cs =>
    match cs with
    | '/' :: '/' :: rest => if isDocLine rest then cs else skipBlanks n (takeLine rest).2
    | '/' :: '*' :: rest =>
      if isDocBlock rest then cs
      else match takeBlock? 0 rest with
        | some (_, rest) => skipBlanks n rest
        | none => cs
    | c :: rest => if isBlank c then skipBlanks n rest else cs
    | [] => []

/-- Whether each return in a comment is followed by a feed. -/
def hasWholeLines : List Char → Bool
  | [] => true
  | '\r' :: '\n' :: cs => hasWholeLines cs
  | '\r' :: _ => false
  | _ :: cs => hasWholeLines cs

/-- The text of a documenting comment, whether it documents what surrounds it, and what follows. -/
def docComment? : List Char → Option (List Char × Bool × List Char)
  | '/' :: '/' :: '!' :: cs =>
    let (line, rest) := takeLine cs
    some (line, true, rest)
  | '/' :: '*' :: '!' :: cs => (takeBlock? 0 cs).map fun (content, rest) => (content, true, rest)
  | '/' :: '/' :: '/' :: cs =>
    if cs.head? == some '/' then none
    else
      let (line, rest) := takeLine cs
      some (line, false, rest)
  | '/' :: '*' :: '*' :: cs =>
    if cs.head? == some '*' then none
    else (takeBlock? 0 cs).map fun (content, rest) => (content, false, rest)
  | _ => none

/-- A text as the literal of a documenting attribute. A quote of one character needs no escape
there, and a zero must not run into a digit. -/
def docLiteral (cs : List Char) : Token :=
  .literal ("\"" ++ String.join (body cs) ++ "\"") (.text (String.ofList cs))
where
  /-- The escaped characters. -/
  body : List Char → List String
    | [] => []
    | '\x00' :: c :: cs =>
      (if '0' ≤ c && c ≤ '7' then "\\x00" else "\\0") :: body (c :: cs)
    | c :: cs => Text.escaped c :: body cs

/-- The attribute that a documenting comment stands for. -/
def docMarks (content : List Char) (isInner : Bool) : List Mark :=
  [.token (.sign '#' false)] ++ (if isInner then [.token (.sign '!' false)] else [])
    ++ [.opened .bracket, .token (.word "doc"), .token (.sign '=' false),
        .token (docLiteral content), .closed .bracket]

/-- The punctuation signs. -/
def signs : List Char :=
  Char.ofNat 39 :: "~!@#$%^&*-=+|;:,<.>/?".toList

/-- Takes a punctuation sign; the stroke of a comment is none. -/
def sign? : List Char → Option (Char × List Char)
  | '/' :: '/' :: _ | '/' :: '*' :: _ => none
  | c :: cs => if signs.contains c then some (c, cs) else none
  | [] => none

/-- Words that have no raw form. -/
def neverRaw : List String :=
  ["_", "super", "self", "Self", "crate"]

/-- Takes a word, raw or not. -/
def word? : List Char → Option (String × List Char)
  | 'r' :: '#' :: cs =>
    match takeName? cs with
    | some (name, rest) =>
      if neverRaw.contains (String.ofList name) then none
      else some ("r#" ++ String.ofList name, rest)
    | none => none
  | cs => (takeName? cs).map fun (name, rest) => (String.ofList name, rest)

/-- The starts of literals that are never words. -/
def literalStarts : List String :=
  ["r\"", "r#\"", "r##", "b\"", String.ofList ['b', Char.ofNat 39], "br\"", "br#", "c\"", "cr\"",
    "cr#"]

/-- Whether a literal begins here, be it well formed or not. -/
def beginsLiteral (cs : List Char) : Bool :=
  literalStarts.any fun s => s.toList.isPrefixOf cs

/-- Takes a lifetime: a quote and a word that no other quote closes. -/
def lifetime? : List Char → Option (String × List Char)
  | [] => none
  | q :: cs =>
    if q.toNat = 39 then
      match word? cs with
      | some (name, rest) =>
        if rest.head?.any (·.toNat = 39) || (rest.head? == some '#' && !"r#".toList.isPrefixOf cs)
        then none
        else some (name, rest)
      | none => none
    else none

/-- Takes one token that is no bracket. A quote in front of the first letter of a literal stands for
itself, and the literal has to be well formed. -/
def token? (cs : List Char) : Option (Token × List Char) :=
  match Literal.take? cs with
  | some (value, rest) =>
    some (.literal (String.ofList (cs.take (cs.length - rest.length))) value, rest)
  | none =>
    match lifetime? cs with
    | some (name, rest) =>
      let afterQuote := cs.drop 1
      if (Literal.take? afterQuote).isSome then some (.sign (Char.ofNat 39) true, afterQuote)
      else if beginsLiteral afterQuote then none
      else some (.lifetime name, rest)
    | none =>
      match sign? cs with
      | some (mark, rest) =>
        if mark.toNat = 39 then none else some (.sign mark (sign? rest).isSome, rest)
      | none =>
        if beginsLiteral cs then none
        else (word? cs).map fun (name, rest) => (.word name, rest)

/-- The spelling of the literal that stands in the place of one that could not be made. -/
def failedLiteral : String :=
  "(/*ERROR*/)"

/-- Takes the marks that come next: a documenting comment stands for several. -/
def marks? (cs : List Char) : Option (List Mark × List Char) :=
  match docComment? cs with
  | some (content, isInner, rest) =>
    if hasWholeLines content then some (docMarks content isInner, rest) else none
  | none =>
    match cs with
    | [] => none
    | c :: rest =>
      if failedLiteral.toList.isPrefixOf cs then
        some ([.token (.literal failedLiteral .other)], cs.drop failedLiteral.length)
      else
        match Delimiter.all.find? fun d => d.opening = c with
        | some d => some ([.opened d], rest)
        | none =>
          match Delimiter.all.find? fun d => d.closing = c with
          | some d => some ([.closed d], rest)
          | none => (token? cs).map fun (t, rest) => ([.token t], rest)

/-- All marks of a text. -/
def allMarks? : Nat → List Char → Option (List Mark)
  | 0, cs => if cs.isEmpty then some [] else none
  | n + 1, cs =>
    match skipBlanks n cs with
    | [] => some []
    | cs => do
      let (marks, rest) ← marks? cs
      return marks ++ (← allMarks? n rest)

/-- Nests marks into trees. The groups that are still open carry the trees before them, newest
first. -/
def nest? (open' : List (Delimiter × List Tree)) (trees : List Tree) :
    List Mark → Option (List Tree)
  | [] => if open'.isEmpty then some trees.reverse else none
  | .token t :: marks => nest? open' (.leaf t :: trees) marks
  | .opened d :: marks => nest? ((d, trees) :: open') [] marks
  | .closed d :: marks =>
    match open' with
    | (d', before) :: open' =>
      if d = d' then nest? open' (.group d trees.reverse :: before) marks else none
    | [] => none

/-- The characters without the mark of byte order in front. -/
def dropOrderMark : List Char → List Char
  | c :: cs => if c.toNat = 0xFEFF then cs else c :: cs
  | [] => []

/-- The token trees of a text. -/
def trees? (text : String) : Option (List Tree) :=
  let cs := dropOrderMark text.toList
  (allMarks? (cs.length + 1) cs).bind (nest? [] [])

/-- The text of a file without the line in front that names its interpreter. Such a line starts
like an attribute of the file, but no bracket follows. -/
def dropInterpreter (cs : List Char) : List Char :=
  match cs with
  | '#' :: '!' :: rest =>
    if (skipBlanks rest.length rest).head? == some '[' then cs else cs.dropWhile (· != '\n')
  | _ => cs

/-- The token trees of a file. -/
def fileTrees? (text : String) : Option (List Tree) :=
  trees? (String.ofList (dropInterpreter (dropOrderMark text.toList)))

end Lexer

end Wiring.Source
