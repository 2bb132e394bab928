import Wiring.Text.Category
import Wiring.Text.Property

/-!
# Texts in double quotes

The form in which a text is shown inside a message or a listing: in double quotes, with escapes for
the quote, the backslash and everything that would not be seen as itself.
-/

namespace Wiring.Text

/-- Characters that show nothing or only space: controls, format characters, separators other than
the blank, and code points without a character. -/
def invisible : Ranges :=
  Category.selected .seventeen ["Cc", "Cf", "Cs", "Co", "Cn", "Zl", "Zp", "Zs"]

/-- Characters that join the one before them. -/
def joining : Ranges :=
  Property.graphemeExtend .seventeen

/-- Whether a character is shown as itself: it is visible and does not join the one before it. -/
def isPlain (c : Char) : Bool :=
  c == ' ' || (!invisible.has c && !joining.has c)

/-- A number in lower case hexadecimal digits. -/
def hex (n : Nat) : String :=
  String.ofList (Nat.toDigits 16 n)

/-- One character as it stands between the quotes. -/
def escaped (c : Char) : String :=
  match c with
  | '\x00' => "\\0"
  | '\t' => "\\t"
  | '\r' => "\\r"
  | '\n' => "\\n"
  | '"' => "\\\""
  | '\\' => "\\\\"
  | c => if isPlain c then String.singleton c else "\\u\x7b" ++ hex c.toNat ++ "\x7d"

/-- The text in double quotes. -/
def quoted (s : String) : String :=
  "\"" ++ String.join (s.toList.map escaped) ++ "\""

end Wiring.Text
