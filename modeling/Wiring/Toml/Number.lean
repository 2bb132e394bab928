import Wiring.Datum.Basic
import Wiring.Decimal.Nearest
import Wiring.Decimal.Reader
import Wiring.Toml.Text

/-!
# Numbers and dates of a configuration file

Whole numbers have 64 bits with sign and may be written to other bases. Underscores may stand
between digits. A date or a time is kept as a record that has its text in a field of a reserved
name.
-/

namespace Wiring.Toml

/-- Takes digits of a kind, with single underscores between them. -/
def digits? (isDigit : Char → Bool) : List Char → Option (List Char × List Char)
  | [] => none
  | c :: cs =>
    if !isDigit c then none
    else
      let (more, rest) := go cs
      some (c :: more, rest)
where
  /-- The digits after the first. -/
  go : List Char → List Char × List Char
    | [] => ([], [])
    | '_' :: c :: cs =>
      if isDigit c then
        let (more, rest) := go cs
        (c :: more, rest)
      else ([], '_' :: c :: cs)
    | c :: cs =>
      if isDigit c then
        let (more, rest) := go cs
        (c :: more, rest)
      else ([], c :: cs)

/-- Takes a sign, if there is one. -/
def sign : List Char → List Char × List Char
  | '+' :: cs => ([], cs)
  | '-' :: cs => (['-'], cs)
  | cs => ([], cs)

/-- Takes the digits of a whole number: a zero stands alone. -/
def wholeDigits? : List Char → Option (List Char × List Char)
  | '0' :: cs => some (['0'], cs)
  | cs => digits? Char.isDigit cs

/-- The value of digits to a base. -/
def valueOf (base : Nat) (digits : List Char) : Nat :=
  digits.foldl (fun n c => n * base + (Text.Ranges.hexValue? c).getD 0) 0

/-- A whole number if it has 64 bits at most. -/
def bounded? (n : Int) : Option Datum :=
  if Decimal.isInt64 n then some (.int n) else none

/-- Takes the digits of a number to a base that is written in front of them. -/
def based? (base : Nat) (cs : List Char) : Option (Datum × List Char) := do
  let isDigit (c : Char) : Bool := (Text.Ranges.hexValue? c).any (· < base)
  let (digits, rest) ← digits? isDigit cs
  return (← bounded? (valueOf base digits), rest)

/-- Takes a whole number. -/
def whole? : List Char → Option (Datum × List Char)
  | '0' :: 'x' :: cs => based? 16 cs
  | '0' :: 'o' :: cs => based? 8 cs
  | '0' :: 'b' :: cs => based? 2 cs
  | cs => do
    let (minus, cs) := sign cs
    let (digits, rest) ← wholeDigits? cs
    let n : Int := valueOf 10 digits
    return (← bounded? (if minus.isEmpty then n else -n), rest)

/-- Takes an exponent. -/
def exponent? : List Char → Option (List Char × List Char)
  | 'e' :: cs | 'E' :: cs => do
    let (minus, cs) := sign cs
    let (digits, rest) ← digits? Char.isDigit cs
    return ('e' :: minus ++ digits, rest)
  | _ => none

/-- Takes a fraction. -/
def fraction? : List Char → Option (List Char × List Char)
  | '.' :: cs => (digits? Char.isDigit cs).map fun (digits, rest) => ('.' :: digits, rest)
  | _ => none

/-- Takes the word for infinity or for what is no number. -/
def special? : List Char → Option (Float × List Char)
  | 'i' :: 'n' :: 'f' :: cs => (Decimal.float? "inf").map (·, cs)
  | 'n' :: 'a' :: 'n' :: cs => (Decimal.float? "nan").map (·, cs)
  | _ => none

/-- Takes a number with a fraction or an exponent. One that is too large is refused, while one that
is too small is negative infinity. -/
def decimal? (cs : List Char) : Option (Datum × List Char) := do
  let (minus, cs) := sign cs
  match special? cs with
  | some (x, rest) => return (.float (if minus.isEmpty then x else -x), rest)
  | none =>
    let (digits, rest) ← wholeDigits? cs
    let (tail, rest) ←
      match exponent? rest, fraction? rest with
      | some (e, rest), _ => some (e, rest)
      | none, some (f, rest) =>
        match exponent? rest with
        | some (e, rest) => some (f ++ e, rest)
        | none => some (f, rest)
      | none, none => none
    let x ← Decimal.float? (String.ofList (minus ++ digits ++ tail))
    if x.isInf && minus.isEmpty then none else return (.float x, rest)

/-- Takes a number of exactly so many digits within bounds. -/
def field? (width low high : Nat) (cs : List Char) : Option (Nat × List Char) :=
  let digits := cs.take width
  if digits.length = width && digits.all Char.isDigit then
    let n := valueOf 10 digits
    if low ≤ n ∧ n ≤ high then some (n, cs.drop width) else none
  else none

/-- Takes one character. -/
def char? (c : Char) : List Char → Option (List Char)
  | d :: cs => if d = c then some cs else none
  | [] => none

/-- How many days a month has. -/
def daysOf (year month : Nat) : Nat :=
  if month = 2 then
    if (year % 4 = 0 ∧ year % 100 ≠ 0) ∨ year % 400 = 0 then 29 else 28
  else if [4, 6, 9, 11].contains month then 30 else 31

/-- Takes a date. -/
def date? (cs : List Char) : Option (List Char × List Char) := do
  let (year, rest) ← field? 4 0 9999 cs
  let (month, rest) ← field? 2 1 12 (← char? '-' rest)
  let (_, rest) ← field? 2 1 (daysOf year month) (← char? '-' rest)
  return (cs.take 10, rest)

/-- The digits of a fraction of a second with its point. Nine of them count, and zeros at the end do
not. -/
def secondFraction (digits : List Char) : List Char :=
  match ((digits.take 9).reverse.dropWhile (· == '0')).reverse with
  | [] => []
  | digits => '.' :: digits

/-- Takes a time of day. -/
def time? (cs : List Char) : Option (List Char × List Char) := do
  let (_, rest) ← field? 2 0 23 cs
  let (_, rest) ← field? 2 0 59 (← char? ':' rest)
  let (_, rest) ← field? 2 0 60 (← char? ':' rest)
  match rest with
  | '.' :: rest =>
    let (digits, rest) := rest.span Char.isDigit
    if digits.isEmpty then none else return (cs.take 8 ++ secondFraction digits, rest)
  | rest => return (cs.take 8, rest)

/-- Takes the distance from universal time, if that is given. No distance is written with a plus. -/
def offset (cs : List Char) : List Char × List Char :=
  let distance? (cs : List Char) : Option (List Char × List Char) := do
    let (_, rest) ← field? 2 0 23 cs
    let (_, rest) ← field? 2 0 59 (← char? ':' rest)
    return (cs.take 5, rest)
  match cs with
  | 'Z' :: rest | 'z' :: rest => (['Z'], rest)
  | '+' :: rest => ((distance? rest).map fun (d, rest) => ('+' :: d, rest)).getD ([], cs)
  | '-' :: rest =>
    let signed (d : List Char) : List Char := (if d == "00:00".toList then '+' else '-') :: d
    ((distance? rest).map fun (d, rest) => (signed d, rest)).getD ([], cs)
  | _ => ([], cs)

/-- Takes a date, a time of day, or both, in the usual spelling. -/
def moment? (cs : List Char) : Option (List Char × List Char) :=
  match date? cs with
  | some (date, rest) =>
    let timed? (tail : List Char) : Option (List Char × List Char) := do
      let (time, rest) ← time? tail
      let (distance, rest) := offset rest
      return (date ++ 'T' :: time ++ distance, rest)
    match rest with
    | 'T' :: tail | 't' :: tail | ' ' :: tail => (timed? tail).getD (date, rest)
    | _ => (date, rest)
  | none => time? cs

/-- Takes a date or a time. -/
def dated? (cs : List Char) : Option (Datum × List Char) :=
  (moment? cs).map fun (text, rest) =>
    (.record [("$__toml_private_datetime", .text (String.ofList text))], rest)

/-- Takes a number or a date. -/
def number? (cs : List Char) : Option (Datum × List Char) :=
  ((dated? cs).or (decimal? cs)).or (whole? cs)

end Wiring.Toml
