import Wiring.Source.Token
import Wiring.Text.Property

/-!
# Spelling of literals

Each reader here takes a literal from the front of a text and gives what follows it. Texts and
characters are quoted, with escapes; raw texts stand between quotes with any number of hash signs.
Numbers may have underscores and a suffix. A literal must not run into a name.
-/

namespace Wiring.Source

/-- The characters other than the underscore that a name may start with. -/
def nameStarts : Text.Ranges :=
  Text.Property.nameStart .seventeen

/-- The characters that a name may go on with. -/
def nameParts : Text.Ranges :=
  Text.Property.nameContinue .seventeen

/-- Whether a name may start with a character. -/
def startsName (c : Char) : Bool :=
  if c.toNat < 128 then c == '_' || c.isAlpha else nameStarts.has c

/-- Whether a name may go on with a character. -/
def continuesName (c : Char) : Bool :=
  if c.toNat < 128 then c == '_' || c.isAlphanum else nameParts.has c

/-- Takes a name from the front. -/
def takeName? : List Char → Option (List Char × List Char)
  | [] => none
  | c :: cs =>
    if startsName c then
      let (name, rest) := cs.span continuesName
      some (c :: name, rest)
    else none

namespace Literal

/-- What follows the suffix of a literal, if it has one. -/
def dropSuffix (cs : List Char) : List Char :=
  match takeName? cs with
  | some (_, rest) => rest
  | none => cs

/-- The rules for what may stand between quotes. -/
structure QuoteRules where
  /-- Whether two hexadecimal digits may follow an escape. -/
  allowsHex : Char → Char → Bool
  /-- Whether code points may be given by number. -/
  allowsCodePoint : Bool
  /-- Whether the zero character may be escaped. -/
  allowsZero : Bool
  /-- Whether a character may stand for itself. -/
  allows : Char → Bool

/-- Whether a character is a hexadecimal digit. -/
def isHex (c : Char) : Bool :=
  (Text.Ranges.hexValue? c).isSome

/-- Rules of a text: an escape by two digits stays in seven bits. -/
def QuoteRules.text : QuoteRules where
  allowsHex a b := '0' ≤ a && a ≤ '7' && isHex b
  allowsCodePoint := true
  allowsZero := true
  allows _ := true

/-- Rules of a text of bytes. -/
def QuoteRules.bytes : QuoteRules where
  allowsHex a b := isHex a && isHex b
  allowsCodePoint := false
  allowsZero := true
  allows c := c.toNat < 128

/-- Rules of a text that ends with a zero byte and so holds none. -/
def QuoteRules.terminated : QuoteRules where
  allowsHex a b := isHex a && isHex b && !(a == '0' && b == '0')
  allowsCodePoint := true
  allowsZero := false
  allows c := c != '\x00'

/-- The digits of a code point up to the closing brace; underscores may stand after the first. -/
def codePoint? (digits : List Char) : List Char → Option (Char × List Char)
  | [] => none
  | '_' :: cs => if digits.isEmpty then none else codePoint? digits cs
  | '}' :: cs =>
    match Text.Ranges.hexNumber? digits.reverse with
    | some n =>
      if digits.isEmpty then none
      else if n < 0xD800 ∨ (0xDFFF < n ∧ n < 0x110000) then some (Char.ofNat n, cs) else none
    | none => none
  | c :: cs => if isHex c && digits.length < 6 then codePoint? (c :: digits) cs else none

/-- What follows a line that was broken by a backslash: the blanks of the next line do not count. -/
def continuation? : List Char → Option (List Char)
  | ' ' :: cs | '\t' :: cs | '\n' :: cs => continuation? cs
  | '\r' :: '\n' :: cs => continuation? cs
  | '\r' :: _ => none
  | [] => none
  | cs => some cs

/-- What an escape stands for, after its backslash: one character, or nothing for a broken line. -/
def escape? (rules : QuoteRules) : List Char → Option (List Char × List Char)
  | 'x' :: a :: b :: cs =>
    if rules.allowsHex a b then
      (Text.Ranges.hexNumber? [a, b]).map fun n => ([Char.ofNat n], cs)
    else none
  | 'u' :: '{' :: cs =>
    if rules.allowsCodePoint then
      match codePoint? [] cs with
      | some (c, cs) => if !rules.allowsZero && c == '\x00' then none else some ([c], cs)
      | none => none
    else none
  | 'n' :: cs => some (['\n'], cs)
  | 'r' :: cs => some (['\r'], cs)
  | 't' :: cs => some (['\t'], cs)
  | '\\' :: cs => some (['\\'], cs)
  | '"' :: cs => some (['"'], cs)
  | '0' :: cs => if rules.allowsZero then some (['\x00'], cs) else none
  | '\n' :: cs => (continuation? cs).map ([], ·)
  | '\r' :: '\n' :: cs => (continuation? cs).map ([], ·)
  | c :: cs => if c.toNat = 39 then some ([c], cs) else none
  | [] => none

/-- The characters up to the closing quote, and what follows the literal. -/
def quoted? (rules : QuoteRules) : Nat → List Char → Option (List Char × List Char)
  | 0, _ => none
  | _ + 1, [] => none
  | n + 1, c :: cs =>
    if c = '"' then some ([], dropSuffix cs)
    else if c = '\\' then do
      let (piece, cs) ← escape? rules cs
      let (content, rest) ← quoted? rules n cs
      return (piece ++ content, rest)
    else if c = '\r' then
      match cs with
      | '\n' :: cs => (quoted? rules n cs).map fun (content, rest) => ('\n' :: content, rest)
      | _ => none
    else if rules.allows c then
      (quoted? rules n cs).map fun (content, rest) => (c :: content, rest)
    else none

/-- The characters of a raw literal up to a quote with the same number of hash signs, and what
follows. A line may end with a return and a feed, and a return stands nowhere else. -/
def rawContent? (rules : QuoteRules) (hashes : List Char) :
    List Char → Option (List Char × List Char)
  | [] => none
  | '"' :: cs =>
    if hashes.isPrefixOf cs then some ([], dropSuffix (cs.drop hashes.length))
    else (rawContent? rules hashes cs).map fun (content, rest) => ('"' :: content, rest)
  | '\r' :: '\n' :: cs =>
    (rawContent? rules hashes cs).map fun (content, rest) => ('\r' :: '\n' :: content, rest)
  | '\r' :: _ => none
  | c :: cs =>
    if rules.allows c then
      (rawContent? rules hashes cs).map fun (content, rest) => (c :: content, rest)
    else none

/-- A raw literal after its letter. -/
def raw? (rules : QuoteRules) (cs : List Char) : Option (List Char × List Char) :=
  let (hashes, rest) := cs.span (· == '#')
  match rest with
  | '"' :: rest => if hashes.length ≤ 255 then rawContent? rules hashes rest else none
  | _ => none

/-- One character up to the closing quote. -/
def character? (rules : QuoteRules) : List Char → Option (Char × List Char)
  | '\\' :: '\n' :: _ | '\\' :: '\r' :: _ => none
  | '\\' :: cs =>
    match escape? rules cs with
    | some ([c], q :: rest) => if q.toNat = 39 then some (c, dropSuffix rest) else none
    | _ => none
  | c :: q :: rest =>
    if q.toNat = 39 && rules.allows c then some (c, dropSuffix rest) else none
  | _ => none

/-- Whether a character is a digit or an underscore between digits. -/
def isDigitOrBreak (c : Char) : Bool :=
  c.isDigit || c == '_'

/-- What follows a number and its suffix; the number must end there. -/
def endNumber? (cs : List Char) : Option (List Char) :=
  match dropSuffix cs with
  | [] => some []
  | c :: rest => if continuesName c then none else some (c :: rest)

/-- The sign and digits of an exponent, after its letter; at least one digit is needed. -/
def exponent? (hasSign hasDigit : Bool) : List Char → Option (List Char × List Char)
  | [] => if hasDigit then some ([], []) else none
  | c :: cs =>
    if c.isDigit then (exponent? hasSign true cs).map fun (e, rest) => (c :: e, rest)
    else if c = '_' then exponent? hasSign hasDigit cs
    else if (c = '+' || c = '-') && !hasDigit then
      if hasSign then none
      else (exponent? true false cs).map fun (e, rest) => (c :: e, rest)
    else if hasDigit then some ([], c :: cs) else none

/-- The digits of a number with a fraction or an exponent, and what follows them. A point that a
name or another point follows is no part of the number. -/
def decimalDigits? (cs : List Char) : Option (List Char × List Char) :=
  match cs with
  | [] => none
  | first :: _ =>
    if !first.isDigit then none
    else
      let (whole, rest) := cs.span isDigitOrBreak
      match rest with
      | '.' :: rest =>
        let (fraction, after) := rest.span isDigitOrBreak
        if rest.head?.any fun c => c == '.' || startsName c then none
        else match after with
          | 'e' :: tail | 'E' :: tail =>
            match exponent? false false tail with
            | some (e, tail) => some (whole ++ '.' :: fraction ++ 'e' :: e, tail)
            | none => some (whole ++ '.' :: fraction, after)
          | _ => some (whole ++ '.' :: fraction, after)
      | 'e' :: tail | 'E' :: tail =>
        (exponent? false false tail).map fun (e, tail) => (whole ++ 'e' :: e, tail)
      | _ => none

/-- A number with a fraction or an exponent. -/
def decimal? (cs : List Char) : Option (LiteralValue × List Char) := do
  let (digits, rest) ← decimalDigits? cs
  return (.decimal (String.ofList (digits.filter (· != '_'))), ← endNumber? rest)

/-- The base of a whole number and its digits. -/
def base : List Char → Nat × List Char
  | '0' :: 'x' :: cs => (16, cs)
  | '0' :: 'o' :: cs => (8, cs)
  | '0' :: 'b' :: cs => (2, cs)
  | cs => (10, cs)

/-- The digits of a whole number to a base; a decimal digit that is too large for it is refused,
while a letter that is none ends the number. -/
def naturalDigits? (base : Nat) (sum : Option Nat) : List Char → Option (Nat × List Char)
  | [] => sum.map (·, [])
  | '_' :: cs => if sum.isNone && base == 10 then none else naturalDigits? base sum cs
  | c :: cs =>
    match Text.Ranges.hexValue? c with
    | some d =>
      if d < base then naturalDigits? base (some (sum.getD 0 * base + d)) cs
      else if c.isDigit then none
      else sum.map (·, c :: cs)
    | none => sum.map (·, c :: cs)

/-- A whole number. -/
def natural? (cs : List Char) : Option (LiteralValue × List Char) := do
  let (base, digits) := base cs
  let (n, rest) ← naturalDigits? base none digits
  return (.natural n, ← endNumber? rest)

/-- The position that a whole number without a suffix gives, in 32 bits. -/
def position? (text : String) : Option Nat :=
  let (base, digits) := base text.toList
  match naturalDigits? base none digits with
  | some (n, []) => if n < 0x100000000 then some n else none
  | _ => none

/-- Takes a literal from the front of a text. -/
def take? (cs : List Char) : Option (LiteralValue × List Char) :=
  let quote := Char.ofNat 39
  let text := fun (r : List Char × List Char) => (LiteralValue.text (String.ofList r.1), r.2)
  let other := fun (r : List Char × List Char) => (LiteralValue.other, r.2)
  let spelled : Option (LiteralValue × List Char) :=
    match cs with
    | '"' :: rest => (quoted? .text (rest.length + 1) rest).map text
    | 'r' :: rest => (raw? .text rest).map text
    | 'b' :: '"' :: rest => (quoted? .bytes (rest.length + 1) rest).map other
    | 'b' :: 'r' :: rest => (raw? .bytes rest).map other
    | 'c' :: '"' :: rest => (quoted? .terminated (rest.length + 1) rest).map other
    | 'c' :: 'r' :: rest => (raw? .terminated rest).map other
    | 'b' :: q :: rest =>
      if q = quote then (character? .bytes rest).map fun r => (.other, r.2) else none
    | q :: rest =>
      if q = quote then (character? .text rest).map fun r => (.character r.1, r.2) else none
    | [] => none
  (spelled.or (decimal? cs)).or (natural? cs)

end Literal

end Wiring.Source
