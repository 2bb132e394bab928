import Wiring.Text.Property

/-!
# What characters do at the borders of words, sentences and written signs

Unicode divides text into written signs, words and sentences by a class of every character. The
classes that a name selects are listed or follow from other properties; the class of the
characters that play no part has no table.
-/

namespace Wiring.Text.Segment

/-- Signs that are written in front of a number that they belong to; one of them starts a word. -/
def numberSigns : Ranges :=
  Ranges.ofLines ["600-605 6DD 890-891 8E2 110BD 110CD"]

/-- The characters that start a syllable block of Korean together with a vowel alone. -/
def openSyllables : Ranges :=
  Ranges.ofLines ["AC00-D788/1C"]

/-- Format characters that stand for themselves at the borders of words and sentences. -/
def formatting (e : Edition) : Ranges :=
  (Category.selected e ["Cf"]).diff
    ((Property.listed "prependedconcatenationmark").union
      (Ranges.ofLines ["200C-200D E0020-E007F"]))

/-- Marks that take space but belong to the sign before them. -/
def spacingMarks (e : Edition) : Ranges :=
  ((Category.selected e ["Mc"]).union (Ranges.ofLines ["E33 EB3"])).diff
    (Ranges.unions [Property.graphemeExtend e, Ranges.ofLines [
      "102B-102C 1038 1062-1064 1067-106D 1083 1087-108C 108F 109A-109C 1A61 1A63-1A64 AA7B AA7D",
      "11720-11721"]])

/-- All marks, which stay with the word they follow. -/
def extending (e : Edition) : Ranges :=
  Ranges.unions [Property.graphemeExtend e, Category.selected e ["Mc"]]

/-- The class of written signs with a name. -/
def sign? (e : Edition) (name : String) : Option Ranges :=
  match name with
  | "cr" => some #[(0xD, 0xD)]
  | "lf" => some #[(0xA, 0xA)]
  | "control" | "cn" =>
    some ((Ranges.unions [formatting e, Category.selected e ["Cc", "Zl", "Zp"],
      (Category.selected e ["Cn"]).inter (Property.defaultIgnorable e)]).diff
        (Ranges.ofLines ["A D"]))
  | "extend" | "ex" =>
    some ((Property.graphemeExtend e).union (Property.listed "emojimodifier"))
  | "zwj" => some #[(0x200D, 0x200D)]
  | "regionalindicator" | "ri" => Property.listed? "regionalindicator"
  | "prepend" | "pp" =>
    some ((Property.listed "prependedconcatenationmark").union (Ranges.ofLines [
      "D4E 111C2-111C3 113D1 1193F 11941 11A3A 11A84-11A89 11D46 11F02"]))
  | "spacingmark" | "sm" => some (spacingMarks e)
  | "l" => some (Ranges.ofLines ["1100-115F A960-A97C"])
  | "v" => some (Ranges.ofLines ["1160-11A7 D7B0-D7C6 16D63 16D67-16D6A"])
  | "t" => some (Ranges.ofLines ["11A8-11FF D7CB-D7FB"])
  | "lv" => some openSyllables
  | "lvt" => some ((Ranges.ofLines ["AC00-D7A3"]).diff openSyllables)
  | _ => none

/-! ## Words -/

/-- Letters of Hebrew. -/
def hebrewLetters : Ranges :=
  Ranges.ofLines [
    "5D0-5EA 5EF-5F2 FB1D FB1F-FB28 FB2A-FB36 FB38-FB3C FB3E FB40-FB41 FB43-FB44 FB46-FB4F"]

/-- Katakana, with the signs that are used among them. -/
def katakana : Ranges :=
  Ranges.ofLines [
    "3031-3035 309B-309C 30A0-30FA 30FC-30FF 31F0-31FF 32D0-32FE 3300-3357 FF66-FF9D",
    "1AFF0-1AFF3 1AFF5-1AFFB 1AFFD-1AFFE 1B000 1B120-1B122 1B155 1B164-1B167"]

/-- Letters of scripts that are written without blanks between words, whose borders only a
dictionary tells. -/
def unspacedLetters : Ranges :=
  Ranges.ofLines [
    "E01-E30 E32-E33 E40-E46 E81-E82 E84 E86-E8A E8C-EA3 EA5 EA7-EB0 EB2-EB3 EBD EC0-EC4 EC6",
    "EDC-EDF 1000-102A 103F 1050-1055 105A-105D 1061 1065-1066 106E-1070 1075-1081 108E 1780-17B3",
    "17D7 17DC 1950-196D 1970-1974 1980-19AB 19B0-19C9 1A20-1A54 1AA7 3041-3096 309D-309F",
    "A9E0-A9E4 A9E6-A9EF A9FA-A9FE AA60-AA76 AA7A AA7E-AAAF AAB1 AAB5-AAB6 AAB9-AABD AAC0 AAC2",
    "AADB-AADD 11700-1171A 11740-11746 1B001-1B11F 1B132 1B150-1B152"]

/-- Signs that count as letters inside a word. -/
def letterSigns : Ranges :=
  Ranges.ofLines [
    "2C2-2C5 2D2-2D7 2DE-2DF 2E5-2EB 2ED 2EF-2FF 55A-55C 55E 58A 5F3 70F A708-A716 A720-A721",
    "A789-A78A AB5B"]

/-- Letters that make words. -/
def wordLetters (e : Edition) : Ranges :=
  ((Property.alphabetic e).diff (Ranges.unions [Property.listed "ideographic", extending e,
    hebrewLetters, katakana, unspacedLetters])).union letterSigns

/-- The class of words with a name. -/
def word? (e : Edition) (name : String) : Option Ranges :=
  match name with
  | "cr" | "lf" | "zwj" | "regionalindicator" | "ri" => sign? e name
  | "newline" | "nl" => some (Ranges.ofLines ["B-C 85 2028-2029"])
  | "extend" => some ((extending e).union (Property.listed "emojimodifier"))
  | "format" | "fo" => some ((formatting e).diff #[(0x200B, 0x200B)])
  | "katakana" | "ka" => some katakana
  | "hebrewletter" | "hl" => some hebrewLetters
  | "aletter" | "le" => some (wordLetters e)
  | "singlequote" | "sq" => some #[(0x27, 0x27)]
  | "doublequote" | "dq" => some #[(0x22, 0x22)]
  | "midnumlet" | "mb" => some (Ranges.ofLines ["2E 2018-2019 2024 FE52 FF07 FF0E"])
  | "midletter" | "ml" => some (Ranges.ofLines ["3A B7 387 55F 5F4 2027 FE13 FE55 FF1A"])
  | "midnum" | "mn" =>
    some (Ranges.ofLines ["2C 3B 37E 589 60C-60D 66C 7F8 2044 FE10 FE14 FE50 FE54 FF0C FF1B"])
  | "numeric" | "nu" =>
    some (Ranges.unions [Category.selected e ["Nd"], numberSigns, #[(0x66B, 0x66B)]])
  | "extendnumlet" | "ex" => some ((Category.selected e ["Pc"]).union #[(0x202F, 0x202F)])
  | "wsegspace" => some (Ranges.ofLines ["20 1680 2000-2006 2008-200A 205F 3000"])
  | _ => none

/-! ## Sentences -/

/-- Georgian letters, which keep one form at the start of a sentence: the small and the capital
ones. -/
def evenLetters : Ranges :=
  Ranges.ofLines ["10D0-10FA 10FD-10FF 1C90-1CBA 1CBD-1CBF"]

/-- Small letters that go on with a sentence. -/
def sentenceSmall (e : Edition) : Ranges :=
  (Property.lowercase e).diff ((Property.graphemeExtend e).union evenLetters)

/-- Capital letters, which can begin a sentence. -/
def sentenceCapital (e : Edition) : Ranges :=
  ((Property.uppercase e).union (Category.selected e ["Lt"])).diff evenLetters

/-- Stops that also end abbreviations. -/
def shortStops : Ranges :=
  Ranges.ofLines ["2E 2024 FE52 FF0E"]

/-- The class of sentences with a name. -/
def sentence? (e : Edition) (name : String) : Option Ranges :=
  match name with
  | "cr" | "lf" => sign? e name
  | "extend" | "ex" => some ((extending e).union (Ranges.ofLines ["200D"]))
  | "sep" | "se" => some (Ranges.ofLines ["85 2028-2029"])
  | "format" | "fo" => some (formatting e)
  | "sp" => some (Ranges.ofLines ["9 B-C 20 A0 1680 2000-200A 202F 205F 3000"])
  | "lower" | "lo" => some (sentenceSmall e)
  | "upper" | "up" => some (sentenceCapital e)
  | "oletter" | "le" =>
    some (((Property.alphabetic e).diff (Ranges.unions [sentenceSmall e, sentenceCapital e,
      extending e])).union (Ranges.ofLines ["5F3 70F"]))
  | "numeric" | "nu" =>
    some (Ranges.unions [Category.selected e ["Nd"], numberSigns, #[(0x66B, 0x66C)]])
  | "aterm" | "at" => some shortStops
  | "scontinue" | "sc" =>
    some (Ranges.ofLines [
      "2C-2D 3A-3B 37E 55D 60C-60D 7F8 1802 1808 2013-2014 3001 FE10-FE11 FE13-FE14 FE31-FE32",
      "FE50-FE51 FE54-FE55 FE58 FE63 FF0C-FF0D FF1A-FF1B FF64"])
  | "sterm" | "st" => some ((Property.listed "sentenceterminal").diff shortStops)
  | "close" | "cl" =>
    some ((Category.selected e ["Ps", "Pe", "Pi", "Pf"]).union (Ranges.ofLines [
      "22 27 275B-2760 2E00-2E01 2E06-2E08 2E0B 1F676-1F678"]))
  | _ => none

end Wiring.Text.Segment
