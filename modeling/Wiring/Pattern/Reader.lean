import Wiring.Decimal.Nearest
import Wiring.Pattern.Named
import Wiring.Pattern.Size
import Wiring.Text.Property
import Wiring.Text.Fields

/-!
# Reading patterns

The text of a pattern is read by descent: alternatives, then sequences, then repeated items. Flags
hold from where they stand to the end of their group. Neither look-around nor references back to a
group exist, so a pattern always stands for a regular set of texts; a text that asks for them is
refused, as is one that is nested too deep or would take too much.
-/

namespace Wiring.Pattern

/-- The switches of a pattern. -/
structure Flags where
  anyCase : Bool := false
  multiLine : Bool := false
  dotAll : Bool := false
  crlf : Bool := false
  unicode : Bool := true
  /-- Blanks and comments in the pattern do not count. -/
  spaced : Bool := false
  deriving DecidableEq, Repr

/-- What the reader carries along: switches, the names of groups seen, and the number of groups. -/
structure Context where
  flags : Flags := {}
  names : List String := []
  groups : Nat := 0

/-- A piece that was read, with the depth of its nesting. -/
structure Piece where
  pattern : Pattern
  depth : Nat := 0

/-- Skips blanks and comments where they do not count. -/
def skipSpaced (flags : Flags) : List Char → List Char
  | [] => []
  | c :: cs =>
    if !flags.spaced then c :: cs
    else if Text.isBlank c then skipSpaced flags cs
    else if c = '#' then comment flags cs
    else c :: cs
where
  /-- Skips a comment to the end of its line. -/
  comment (flags : Flags) : List Char → List Char
    | [] => []
    | c :: cs => if c = '\n' then skipSpaced flags cs else comment flags cs

/-- Whether a backslash in front of a character only makes it stand for itself. -/
def isEscapable (c : Char) : Bool :=
  c.toNat < 128 && !c.isAlphanum && c != '<' && c != '>'

/-- A reader of pieces of a pattern. -/
abbrev Reader (α : Type) := List Char → Option (α × List Char)

/-! ## Escapes -/

/-- What an escape can stand for. -/
inductive Escape where
  /-- A character; it may be written as the number of a byte. -/
  | char (c : Char) (isByte : Bool)
  | set (s : Charset)
  | place (p : Place)

/-- The characters up to a closing brace, between which blanks may not count. -/
def braced (flags : Flags) (cs : List Char) : Option (List Char × List Char) :=
  collect [] cs
where
  /-- Collects characters up to a closing brace. -/
  collect (acc : List Char) : List Char → Option (List Char × List Char)
    | [] => none
    | c :: cs =>
      if c = '}' then some (acc.reverse, cs)
      else if flags.spaced && Text.isBlank c then collect acc cs
      else if flags.spaced && c = '#' then comment acc cs
      else collect (c :: acc) cs
  /-- Skips a comment to the end of its line. -/
  comment (acc : List Char) : List Char → Option (List Char × List Char)
    | [] => none
    | c :: cs => if c = '\n' then collect acc cs else comment acc cs

/-- A number of characters, between which blanks may not count. -/
def taken (flags : Flags) : (count : Nat) → List Char → Option (List Char × List Char)
  | 0, cs => some ([], cs)
  | count + 1, cs =>
    match skipSpaced flags cs with
    | [] => none
    | c :: cs => (taken flags count cs).map fun (ds, rest) => (c :: ds, rest)

/-- The character with a code point, if there is one. -/
def charOf? (n : Nat) : Option Char :=
  if n < 0xD800 ∨ (0xDFFF < n ∧ n < 0x110000) then some (Char.ofNat n) else none

/-- Reads an escape that gives a code point by so many digits, or by any number in braces. Two
digits give a byte. -/
def hexEscape (width : Nat) (flags : Flags) (cs : List Char) : Option (Escape × List Char) := do
  let start := skipSpaced flags cs
  let (digits, rest) ← if start.head? = some '{' then braced flags (start.drop 1)
    else taken flags width start
  if digits.isEmpty then none
  let c ← charOf? (← Text.Ranges.hexNumber? digits)
  return (.char c (width = 2 ∧ start.head? ≠ some '{'), rest)

/-- The set that the text between braces of a property stands for, and whether its complement is
meant, as `!=` between name and value says. -/
def propertySet? (name : List Char) : Option (Bool × Charset) :=
  let withValue? (n v : List Char) : Option Charset :=
    Charset.withValue? (String.ofList n) (String.ofList v)
  match Text.cutFirst? ['!', '='] name with
  | some (n, v) => (withValue? n v).map (true, ·)
  | none =>
    match (Text.cutFirst? [':'] name).or (Text.cutFirst? ['='] name) with
    | some (n, v) => (withValue? n v).map (false, ·)
    | none => (Charset.named? (String.ofList name)).map (false, ·)

/-- A set with its case variants, and its complement, as far as they are wanted. Where characters
are bytes, a complement would match parts of characters and is refused. -/
def finished? (flags : Flags) (negated : Bool) (s : Charset) : Option Charset :=
  let s := if flags.anyCase then s.anyCase flags.unicode else s
  if !negated then some s
  else if flags.unicode then some s.compl
  else none

/-- Reads the name of a property and gives its set. -/
def property (negated : Bool) (flags : Flags) (cs : List Char) : Option (Escape × List Char) := do
  if !flags.unicode then none
  match skipSpaced flags cs with
  | '{' :: rest =>
    let (name, rest) ← braced flags rest
    let (isComplement, s) ← propertySet? name
    return (.set (← finished? flags (negated != isComplement) s), rest)
  | '\\' :: _ => none
  | c :: rest =>
    return (.set (← finished? flags negated (← Charset.named? (String.singleton c))), rest)
  | [] => none

/-- The word characters under the switches. -/
def wordSet (flags : Flags) : Charset :=
  if flags.unicode then .word else .asciiWord

/-- A set for all characters or for bytes, or its complement, without regard to case. -/
def perlSet? (flags : Flags) (negated : Bool) (all ascii : Charset) : Option Escape :=
  (finished? { flags with anyCase := false } negated
    (if flags.unicode then all else ascii)).map .set

/-- Reads what follows `\b`: a brace may name a special kind of word edge. -/
def wordEdge (flags : Flags) (cs : List Char) : Option (Escape × List Char) :=
  let w := wordSet flags
  let isNameChar (c : Char) : Bool := c.isAlpha || c == '-'
  match cs with
  | '{' :: rest =>
    match skipSpaced flags rest with
    | [] => none
    | c :: cs' =>
      if !isNameChar c then some (.place (.wordEdge w), cs)
      else do
        let (name, rest) ← braced flags (c :: cs')
        match String.ofList name with
        | "start" => return (.place (.wordStart w), rest)
        | "end" => return (.place (.wordEnd w), rest)
        | "start-half" => return (.place (.wordStartHalf w), rest)
        | "end-half" => return (.place (.wordEndHalf w), rest)
        | _ => none
  | _ => some (.place (.wordEdge w), cs)

/-- Reads an escape after its backslash. -/
def escape (flags : Flags) : List Char → Option (Escape × List Char)
  | [] => none
  | c :: rest =>
    match c with
    | 'x' => hexEscape 2 flags rest
    | 'u' => hexEscape 4 flags rest
    | 'U' => hexEscape 8 flags rest
    | 'p' => property false flags rest
    | 'P' => property true flags rest
    | 'd' => (perlSet? flags false .digit .asciiDigit).map (·, rest)
    | 'D' => (perlSet? flags true .digit .asciiDigit).map (·, rest)
    | 's' => (perlSet? flags false .space .asciiSpace).map (·, rest)
    | 'S' => (perlSet? flags true .space .asciiSpace).map (·, rest)
    | 'w' => (perlSet? flags false .word .asciiWord).map (·, rest)
    | 'W' => (perlSet? flags true .word .asciiWord).map (·, rest)
    | 'a' => some (.char '\x07' false, rest)
    | 'f' => some (.char '\x0c' false, rest)
    | 't' => some (.char '\t' false, rest)
    | 'n' => some (.char '\n' false, rest)
    | 'r' => some (.char '\r' false, rest)
    | 'v' => some (.char '\x0b' false, rest)
    | 'A' => some (.place .textStart, rest)
    | 'z' => some (.place .textEnd, rest)
    | 'b' => wordEdge flags rest
    | 'B' => some (.place (.noWordEdge (wordSet flags)), rest)
    | '<' => some (.place (.wordStart (wordSet flags)), rest)
    | '>' => some (.place (.wordEnd (wordSet flags)), rest)
    | c => if isEscapable c then some (.char c false, rest) else none

/-! ## Sets in brackets -/

/-- Reads `[:name:]` after its bracket: whether it is negated, and the class. -/
def posixClass : List Char → Option ((Bool × Charset) × List Char)
  | ':' :: rest =>
    let (negated, rest) := match rest with
      | '^' :: rest => (true, rest)
      | rest => (false, rest)
    match rest.span (· != ':') with
    | (name, ':' :: ']' :: rest) =>
      (Charset.posix? (String.ofList name)).map fun s => ((negated, s), rest)
    | _ => none
  | _ => none

/-- An operation between the parts of a set in brackets. -/
inductive SetOp where
  | inter | diff | symm

/-- The result of an operation. -/
def SetOp.apply : SetOp → Charset → Charset → Charset
  | inter, a, b => .inter a b
  | diff, a, b => .diff a b
  | symm, a, b => .symmDiff a b

/-- One item of a set: a character, which may start a range, or a set. -/
inductive SetItem where
  | char (c : Char)
  | set (s : Charset)

/-- Reads one item of a set. Where characters are bytes, only the first 128 characters are
characters. -/
def setItem (flags : Flags) : List Char → Option (SetItem × List Char)
  | [] => none
  | '\\' :: rest => do
    match ← escape flags rest with
    | (.char c _, rest) => checked c rest
    | (.set s, rest) => return (.set s, rest)
    | (.place _, _) => none
  | c :: rest => checked c rest
where
  /-- A character that may stand in a set. -/
  checked (c : Char) (rest : List Char) : Option (SetItem × List Char) :=
    if flags.unicode || c.toNat < 128 then some (.char c, rest) else none

/-- The character that decides whether a hyphen is one of a range: the next one that is no blank.
Where blanks do not count, the first number sign is passed over too, but not the comment behind it.
-/
def afterHyphen (flags : Flags) (cs : List Char) : Option Char :=
  if !flags.spaced then cs.head?
  else
    match cs.dropWhile Text.isBlank with
    | '#' :: rest => ((rest.dropWhile Text.isBlank).head?).or cs.head?
    | c :: _ => some c
    | [] => cs.head?

/-- Reads one item or a range. -/
def setRange (flags : Flags) (cs : List Char) : Option (Charset × List Char) := do
  let single (item : SetItem) : Charset := match item with
    | .char c => .single c
    | .set s => s
  let (first, rest) ← setItem flags cs
  match skipSpaced flags rest with
  | [] => none
  | '-' :: after =>
    if afterHyphen flags after = some ']' ∨ afterHyphen flags after = some '-' then
      return (single first, '-' :: after)
    else
      match first, ← setItem flags (skipSpaced flags after) with
      | .char a, (.char b, rest) => if a ≤ b then return (.range a b, rest) else none
      | _, _ => none
  | rest => return (single first, rest)

/-- A set in brackets while it is read: the operation that waits for its right side, and the items
collected since, each with the depth of its nesting. -/
structure SetBody where
  left? : Option ((Charset × Nat) × SetOp) := none
  items : List (Charset × Nat) := []

/-- The union of the items, which is nested deeper than they are if there are several. -/
def SetBody.union (b : SetBody) : Charset × Nat :=
  match b.items with
  | [] => (.empty, 0)
  | [item] => item
  | items => (.unions (items.map (·.1)), items.foldl (fun d item => max d item.2) 0 + 1)

/-- The set collected so far, with the depth of its nesting. -/
def SetBody.close (flags : Flags) (b : SetBody) : Charset × Nat :=
  let (right, depth) := b.union
  match b.left? with
  | none => (right, depth)
  | some ((left, leftDepth), op) =>
    let folded (s : Charset) : Charset := if flags.anyCase then s.anyCase flags.unicode else s
    (op.apply (folded left) (folded right), max leftDepth depth + 1)

/-- Adds an item. -/
def SetBody.add (b : SetBody) (s : Charset) (depth : Nat) : SetBody :=
  { b with items := (s, depth) :: b.items }

/-- Starts the right side of an operation. -/
def SetBody.operate (flags : Flags) (b : SetBody) (op : SetOp) : SetBody :=
  { left? := some (b.close flags, op) }

/-- Takes the hyphens that stand for themselves at the start of a set. -/
def leadingHyphens (flags : Flags) : (fuel : Nat) → SetBody → List Char → SetBody × List Char
  | 0, b, cs => (b, cs)
  | fuel + 1, b, cs =>
    match cs with
    | '-' :: rest => leadingHyphens flags fuel (b.add (.single '-') 0) (skipSpaced flags rest)
    | cs => (b, cs)

/-- Reads the start of a set after its opening bracket: whether it is negated, and the characters
that would mean something else further on. -/
def openSet (flags : Flags) (cs : List Char) : Bool × SetBody × List Char :=
  let (negated, cs) := match skipSpaced flags cs with
    | '^' :: rest => (true, skipSpaced flags rest)
    | rest => (false, rest)
  let (b, cs) := leadingHyphens flags cs.length {} cs
  match cs with
  | ']' :: rest =>
    if b.items.isEmpty then (negated, b.add (.single ']') 0, skipSpaced flags rest)
    else (negated, b, cs)
  | cs => (negated, b, cs)

/-- Reads a set after its start. The number bounds the calls, each of which takes a character. -/
def setBody (flags : Flags) : (fuel : Nat) → SetBody → List Char → Option (SetBody × List Char)
  | 0, _, _ => none
  | fuel + 1, b, cs =>
    match skipSpaced flags cs with
    | [] => none
    | ']' :: rest => some (b, rest)
    | '&' :: '&' :: rest => setBody flags fuel (b.operate flags .inter) rest
    | '-' :: '-' :: rest => setBody flags fuel (b.operate flags .diff) rest
    | '~' :: '~' :: rest => setBody flags fuel (b.operate flags .symm) rest
    | '[' :: rest =>
      match posixClass rest with
      | some ((negated, s), rest) => do
        setBody flags fuel (b.add (← finished? flags negated s) 0) rest
      | none => do
        let (negated, start, rest) := openSet flags rest
        let (inner, rest) ← setBody flags fuel start rest
        let (s, depth) := inner.close flags
        setBody flags fuel (b.add (← finished? flags negated s) (depth + 1)) rest
    | cs => do
      let (s, rest) ← setRange flags cs
      setBody flags fuel (b.add s 0) rest

/-- Reads a set after its opening bracket. -/
def bracketed (flags : Flags) (cs : List Char) : Option (Piece × List Char) := do
  let (negated, b, rest) := openSet flags cs
  let (b, rest) ← setBody flags (rest.length + 1) b rest
  let (s, depth) := b.close flags
  return (⟨ofCharset (← finished? flags negated s), depth + 1⟩, rest)

/-! ## Groups, flags and repetitions -/

/-- Takes digits, between which blanks may not count. The number bounds the digits. -/
def digits (flags : Flags) : (bound : Nat) → List Char → List Char × List Char
  | 0, cs => ([], cs)
  | bound + 1, cs =>
    match cs with
    | [] => ([], [])
    | c :: rest =>
      if c.isDigit then
        let (ds, rest) := digits flags bound (skipSpaced flags rest)
        (c :: ds, rest)
      else ([], c :: rest)

/-- Skips blanks, and comments behind one where they do not count. -/
def skipBlanks (flags : Flags) (cs : List Char) : List Char :=
  match cs with
  | [] => []
  | c :: rest =>
    if Text.isBlank c then
      (skipSpaced flags rest).dropWhile Text.isBlank
    else c :: rest

/-- Reads a number of 32 bits; blanks around it do not count. -/
def decimal (flags : Flags) (cs : List Char) : Option (Nat × List Char) :=
  let (ds, rest) := digits flags cs.length (cs.dropWhile Text.isBlank)
  let n : Nat := ds.foldl (fun n c => n * 10 + (c.toNat - 48)) 0
  if ds.isEmpty ∨ Decimal.twoTo 32 ≤ n then none else some (n, skipBlanks flags rest)

/-- Reads the bounds of a repetition after their opening brace. -/
def bounds (flags : Flags) (cs : List Char) : Option ((Nat × Option Nat) × List Char) := do
  let (least, rest) ← decimal flags (skipSpaced flags cs)
  match rest with
  | '}' :: rest => return ((least, some least), rest)
  | ',' :: rest =>
    match skipSpaced flags rest with
    | '}' :: rest => return ((least, none), rest)
    | rest =>
      match ← decimal flags rest with
      | (most, '}' :: rest) => if least ≤ most then return ((least, some most), rest) else none
      | _ => none
  | _ => none

/-- Sets one switch by its letter. -/
def Flags.set? (f : Flags) (c : Char) (on : Bool) : Option Flags :=
  match c with
  | 'i' => some { f with anyCase := on }
  | 'm' => some { f with multiLine := on }
  | 's' => some { f with dotAll := on }
  | 'R' => some { f with crlf := on }
  | 'u' => some { f with unicode := on }
  | 'x' => some { f with spaced := on }
  -- which of several matches is found first does not matter here
  | 'U' => some f
  | _ => none

/-- Reads the letters of switches up to a colon or a closing bracket. -/
def switches (seen : List Char) (on : Bool) (f : Flags) : List Char → Option (Flags × List Char)
  | [] => none
  | c :: rest =>
    if c = ':' ∨ c = ')' then
      -- a hyphen has to be followed by a letter
      if seen.getLast? = some '-' then none else some (f, c :: rest)
    else if c ∈ seen then none
    else if c = '-' then switches (seen ++ [c]) false f rest
    else do switches (seen ++ [c]) on (← f.set? c on) rest

/-- Letters, with which the name of a group begins. -/
def nameLetters : Text.Ranges :=
  Text.Property.alphabetic .seventeen

/-- Letters and numbers, with which the name of a group goes on. -/
def nameCharacters : Text.Ranges :=
  nameLetters.union (Text.Category.selected .seventeen ["Nd", "Nl", "No"])

/-- Reads the name of a group up to its closing angle. -/
def groupName (cs : List Char) : Option (String × List Char) :=
  let isFirst (c : Char) : Bool := c == '_' || nameLetters.has c
  let isLater (c : Char) : Bool :=
    c == '_' || c == '.' || c == '[' || c == ']' || nameCharacters.has c
  match cs.span (· != '>') with
  | (c :: name, _ :: rest) =>
    if isFirst c && name.all isLater then some (String.ofList (c :: name), rest) else none
  | _ => none

/-- How a group begins. -/
inductive GroupStart where
  /-- Only switches, which hold for the rest of the group around them. -/
  | switches (f : Flags)
  /-- A group, with its number if it is counted and what holds inside it. -/
  | opened (number? : Option Nat) (inner : Context)

/-- The start of a counted group. -/
def GroupStart.counted (ctx : Context) : GroupStart :=
  .opened (some (ctx.groups + 1)) { ctx with groups := ctx.groups + 1 }

/-- Reads the start of a group after its opening bracket. -/
def groupStart (ctx : Context) (cs : List Char) : Option (GroupStart × List Char) := do
  let named (rest : List Char) : Option (GroupStart × List Char) := do
    let (name, rest) ← groupName rest
    if ctx.names.contains name then none
    else return (.counted { ctx with names := name :: ctx.names }, rest)
  match skipSpaced ctx.flags cs with
  | '?' :: '=' :: _ | '?' :: '!' :: _ | '?' :: '<' :: '=' :: _ | '?' :: '<' :: '!' :: _ => none
  | '?' :: 'P' :: '<' :: rest | '?' :: '<' :: rest => named rest
  | '?' :: rest =>
    match ← switches [] true ctx.flags rest with
    | (f, ')' :: after) =>
      if rest.head? = some ')' then none else return (.switches f, after)
    | (f, _ :: after) => return (.opened none { ctx with flags := f }, after)
    | _ => none
  | rest => return (.counted ctx, rest)

/-- A pattern for one character that stands for itself. A character written as the number of a byte
is one of the first 128 where characters are bytes. -/
def literal? (flags : Flags) (c : Char) (isByte : Bool) : Option Pattern :=
  if !flags.unicode && isByte && 128 ≤ c.toNat then none
  else if flags.anyCase then some (ofCharset ((Charset.single c).anyCase flags.unicode))
  else some (text [c])

/-- The pattern of a dot. -/
def dot? (flags : Flags) : Option Pattern :=
  if !flags.unicode then none
  else if flags.dotAll then some (.set .all)
  else if flags.crlf then some (.set (Charset.union (.single '\n') (.single '\r')).compl)
  else some (.set (Charset.single '\n').compl)

/-- The place of a caret. -/
def caret (flags : Flags) : Place :=
  if !flags.multiLine then .textStart else if flags.crlf then .crlfStart else .lineStart

/-- The place of a dollar sign. -/
def dollar (flags : Flags) : Place :=
  if !flags.multiLine then .textEnd else if flags.crlf then .crlfEnd else .lineEnd

/-- One item of a sequence; switches are an item that cannot be repeated. -/
inductive Item where
  | piece (p : Piece)
  | switches

/-- The pieces of several kinds in one, which is nested deeper than they are if there are several.
-/
def combined (build : List Pattern → Pattern) (pieces : List Piece) : Piece :=
  match pieces with
  | [p] => p
  | pieces =>
    ⟨build (pieces.map Piece.pattern),
      if pieces.isEmpty then 0 else pieces.foldl (fun d q => max d q.depth) 0 + 1⟩

/-- The sequence of some items. -/
def sequenceOf (items : List Item) : Piece :=
  combined sequence (items.map fun
    | .piece p => p
    | .switches => ⟨.empty, 0⟩)

/-- Repeats the last item of a sequence, which has to be there and not be switches. -/
def repeatLast (least : Nat) (most? : Option Nat) : List Item → Option (List Item)
  | .piece p :: before => some (.piece ⟨repeated p.pattern least most?, p.depth + 1⟩ :: before)
  | _ => none

/-- Skips the mark that asks for the shortest match, which does not matter here. -/
def skipLazy (cs : List Char) : List Char :=
  match cs with
  | '?' :: rest => rest
  | cs => cs

/-- Reads the alternatives of a group (or of the whole pattern) up to its closing bracket (or the
end). `items` is the sequence read so far, last item first, and `done` are the alternatives before
it, last one first. The number bounds the calls, each of which takes a character. -/
def alternatives : (fuel : Nat) → Context → List Item → List Piece → List Char →
    Option (Piece × Context × List Char)
  | 0, _, _, _, _ => none
  | fuel + 1, ctx, items, done, cs =>
    let push (p : Piece) (rest : List Char) : Option (Piece × Context × List Char) :=
      alternatives fuel ctx (.piece p :: items) done rest
    let finish (rest : List Char) : Option (Piece × Context × List Char) :=
      some (combined choice (sequenceOf items.reverse :: done).reverse, ctx, rest)
    match skipSpaced ctx.flags cs with
    | [] => finish []
    | ')' :: rest => finish (')' :: rest)
    | '|' :: rest => alternatives fuel ctx [] (sequenceOf items.reverse :: done) rest
    | '(' :: rest => do
      match ← groupStart ctx rest with
      | (.switches f, rest) =>
        alternatives fuel { ctx with flags := f } (.switches :: items) done rest
      | (.opened number? inner, rest) =>
        match ← alternatives fuel inner [] [] rest with
        | (p, inner, ')' :: rest) =>
          let pattern := match number? with
            | some n => group n p.pattern
            | none => p.pattern
          alternatives fuel { inner with flags := ctx.flags }
            (.piece ⟨pattern, p.depth + 1⟩ :: items) done rest
        | _ => none
    | '[' :: rest => do
      let (p, rest) ← bracketed ctx.flags rest
      push p rest
    | '?' :: rest => do
      alternatives fuel ctx (← repeatLast 0 (some 1) items) done (skipLazy rest)
    | '*' :: rest => do
      alternatives fuel ctx (← repeatLast 0 none items) done (skipLazy rest)
    | '+' :: rest => do
      alternatives fuel ctx (← repeatLast 1 none items) done (skipLazy rest)
    | '{' :: rest => do
      let ((least, most?), rest) ← bounds ctx.flags rest
      let items ← repeatLast least most? items
      alternatives fuel ctx items done (skipLazy (skipSpaced ctx.flags rest))
    | '.' :: rest => do push ⟨← dot? ctx.flags, 0⟩ rest
    | '^' :: rest => push ⟨.place (caret ctx.flags), 0⟩ rest
    | '$' :: rest => push ⟨.place (dollar ctx.flags), 0⟩ rest
    | '\\' :: rest => do
      match ← escape ctx.flags rest with
      | (.char c isByte, rest) => push ⟨← literal? ctx.flags c isByte, 0⟩ rest
      | (.set s, rest) => push ⟨ofCharset s, 0⟩ rest
      | (.place p, rest) => push ⟨.place p, 0⟩ rest
    | c :: rest => do push ⟨← literal? ctx.flags c false, 0⟩ rest

/-- Groups, sequences, choices, repetitions and sets may be nested this deep. -/
def depthLimit : Nat := 250

/-- The pattern that a text stands for, if it is one. -/
def ofText? (s : String) : Option Pattern :=
  match alternatives (s.length + 2) {} [] [] s.toList with
  | some (p, _, []) =>
    if p.depth ≤ depthLimit && p.pattern.fits then some p.pattern else none
  | _ => none

end Wiring.Pattern
