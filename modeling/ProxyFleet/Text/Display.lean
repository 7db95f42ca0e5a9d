import ProxyFleet.Text.Printable

/-!
Text as it is shown inside a message: between quotes, with backslash escapes for the quote, the
backslash and the common controls, and with the code point in hexadecimal for every other character
that cannot be shown.
-/

namespace ProxyFleet.Text

def hex (n : Nat) : String :=
  String.ofList (Nat.toDigits 16 n)

def codePoint (c : Char) : String :=
  "\\u\x7b" ++ hex c.toNat ++ "\x7d"

/-- One character of a text that stands between quotes `quote`. -/
def shownChar (quote c : Char) : String :=
  match c with
  | '\x00' => "\\0"
  | '\t' => "\\t"
  | '\r' => "\\r"
  | '\n' => "\\n"
  | '\\' => "\\\\"
  | c =>
    if c = quote then "\\" ++ c.toString
    else if isPrintable c && !isExtending c then c.toString
    else codePoint c

/-- A text between double quotes. -/
def quoted (s : String) : String :=
  "\"" ++ String.join (s.toList.map (shownChar '"')) ++ "\""

/-- A character between single quotes. -/
def quotedChar (c : Char) : String :=
  "'" ++ shownChar '\'' c ++ "'"

end ProxyFleet.Text
