import Wiring.Pattern.Charset
import Wiring.Text.Age
import Wiring.Text.Script
import Wiring.Text.Segment

/-!
# Properties of characters by name

A name is compared without case, blanks, hyphens and underscores. Alone it is a yes-or-no property,
a general category or a script; with a value it says which of several tables the value is from.
-/

namespace Wiring.Pattern.Charset

/-- A name in the form in which names are compared. The two letters of `is` at its start do not
count, except in `isc`, which is no name for `c`. -/
def normalName (s : String) : String :=
  let plain (cs : List Char) : List Char :=
    (cs.filter fun c => c.toNat < 128 && !(c == ' ' || c == '-' || c == '_')).map Char.toLower
  match s.toList with
  | i :: t :: rest =>
    if i.toLower = 'i' ∧ t.toLower = 's' then
      let rest := plain rest
      String.ofList (if rest = ['c'] then ['i', 's', 'c'] else rest)
    else String.ofList (plain (i :: t :: rest))
  | cs => String.ofList (plain cs)

/-- The general categories: the names of each, and the abbreviations it covers. The category of
surrogates is missing, since no character has it. -/
def categories : List (List String × List String) := [
  (["lu", "uppercaseletter"], ["Lu"]),
  (["ll", "lowercaseletter"], ["Ll"]),
  (["lt", "titlecaseletter"], ["Lt"]),
  (["lm", "modifierletter"], ["Lm"]),
  (["lo", "otherletter"], ["Lo"]),
  (["mn", "nonspacingmark"], ["Mn"]),
  (["mc", "spacingmark"], ["Mc"]),
  (["me", "enclosingmark"], ["Me"]),
  (["nd", "decimalnumber", "digit"], ["Nd"]),
  (["nl", "letternumber"], ["Nl"]),
  (["no", "othernumber"], ["No"]),
  (["pc", "connectorpunctuation"], ["Pc"]),
  (["pd", "dashpunctuation"], ["Pd"]),
  (["ps", "openpunctuation"], ["Ps"]),
  (["pe", "closepunctuation"], ["Pe"]),
  (["pi", "initialpunctuation"], ["Pi"]),
  (["pf", "finalpunctuation"], ["Pf"]),
  (["po", "otherpunctuation"], ["Po"]),
  (["sm", "mathsymbol"], ["Sm"]),
  (["sc", "currencysymbol"], ["Sc"]),
  (["sk", "modifiersymbol"], ["Sk"]),
  (["so", "othersymbol"], ["So"]),
  (["zs", "spaceseparator"], ["Zs"]),
  (["zl", "lineseparator"], ["Zl"]),
  (["zp", "paragraphseparator"], ["Zp"]),
  (["cc", "control", "cntrl"], ["Cc"]),
  (["cf", "format"], ["Cf"]),
  (["co", "privateuse"], ["Co"]),
  (["cn", "unassigned"], ["Cn"]),
  (["lc", "casedletter"], ["Lu", "Ll", "Lt"]),
  (["l", "letter"], ["Lu", "Ll", "Lt", "Lm", "Lo"]),
  (["m", "mark", "combiningmark"], ["Mn", "Mc", "Me"]),
  (["n", "number"], ["Nd", "Nl", "No"]),
  (["p", "punctuation", "punct"], ["Pc", "Pd", "Ps", "Pe", "Pi", "Pf", "Po"]),
  (["s", "symbol"], ["Sm", "Sc", "Sk", "So"]),
  (["z", "separator"], ["Zs", "Zl", "Zp"]),
  (["c", "other"], ["Cc", "Cf", "Cs", "Co", "Cn"])]

/-- The general category with a name. -/
def category? (e : Text.Edition) (name : String) : Option Text.Ranges :=
  match name with
  | "any" => some #[(0, Text.Ranges.lastPoint)]
  | "ascii" => some #[(0, 127)]
  | "assigned" => some (Text.Category.assigned e)
  | _ =>
    (categories.find? fun (names, _) => names.contains name).map fun (_, covered) =>
      Text.Category.selected e covered

/-- The set that a name alone stands for. -/
def named? (name : String) : Option Charset :=
  let e := Text.Edition.sixteen
  let name := normalName name
  let property? := Text.Property.named? e name
  (property?.or ((category? e name).or (Text.Script.named? name))).map ofRanges

/-- The set that a property and its value stand for. -/
def withValue? (name value : String) : Option Charset :=
  let e := Text.Edition.sixteen
  let value := normalName value
  let found? : Option Text.Ranges :=
    match normalName name with
    | "generalcategory" | "gc" => category? e value
    | "script" | "sc" => Text.Script.named? value
    | "scriptextensions" | "scx" => Text.Script.usedBy? value
    | "age" => Text.Age.upTo? value
    | "graphemeclusterbreak" | "gcb" => Text.Segment.sign? e value
    | "wordbreak" | "wb" => Text.Segment.word? e value
    | "sentencebreak" | "sb" => Text.Segment.sentence? e value
    | _ => none
  found?.map ofRanges

end Wiring.Pattern.Charset
