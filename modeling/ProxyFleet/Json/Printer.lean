import ProxyFleet.Json.Basic
import ProxyFleet.Number.Shortest
import ProxyFleet.Text.Display

/-!
JSON text without spaces. A double is written with the fewest digits that read back: as a plain
decimal with at least one place from 1e-5 up to 1e16, and with a signed exponent outside that range.
-/

namespace ProxyFleet

namespace Double

/-- The decimal exponents between which a number is written without an exponent: the point may
stand at most this many places into or before the digits. -/
def plainBefore : Int := 16
def plainAfter : Int := -5

def signedExponent (e : Int) : String :=
  (if e < 0 then "e-" else "e+") ++ toString e.natAbs

/-- The text of the magnitude `digits * 10 ^ exponent`. -/
def decimalText (digits : List Char) (exponent : Int) : String :=
  let point : Int := digits.length + exponent
  if 0 ≤ exponent && point ≤ plainBefore then
    String.ofList digits ++ String.ofList (List.replicate exponent.toNat '0') ++ ".0"
  else if 0 < point && point ≤ plainBefore then
    String.ofList (digits.take point.toNat) ++ "." ++ String.ofList (digits.drop point.toNat)
  else if plainAfter < point && point ≤ 0 then
    "0." ++ String.ofList (List.replicate (-point).toNat '0') ++ String.ofList digits
  else match digits with
    | [d] => d.toString ++ signedExponent (point - 1)
    | ds => String.ofList (ds.take 1) ++ "." ++ String.ofList (ds.drop 1) ++ signedExponent (point - 1)

/-- The text of a finite double. -/
def text (x : Double) : String :=
  let magnitude :=
    if x.magnitudeBits = 0 then "0.0"
    else
      let (digits, exponent) := x.shortest
      decimalText (Nat.toDigits 10 digits) exponent
  if x.isNegative then "-" ++ magnitude else magnitude

end Double

namespace Json

/-- One character of a JSON string. -/
def escapedChar (c : Char) : String :=
  match c with
  | '"' => "\\\""
  | '\\' => "\\\\"
  | '\n' => "\\n"
  | '\r' => "\\r"
  | '\t' => "\\t"
  | c =>
    if c.toNat = 8 then "\\b"
    else if c.toNat = 12 then "\\f"
    else if c.toNat < 0x20 then
      "\\u00" ++ (if c.toNat < 0x10 then "0" else "") ++ Text.hex c.toNat
    else c.toString

def quotedText (s : String) : String :=
  "\"" ++ String.join (s.toList.map escapedChar) ++ "\""

mutual

/-- The text of a document. -/
def text : Json → String
  | .null | .unreadable => "null"
  | .bool b => if b then "true" else "false"
  | .int n => toString n
  | .double x => if x.isFinite then x.text else "null"
  | .str s => quotedText s
  | .arr items => "[" ++ String.intercalate "," (itemTexts items) ++ "]"
  | .obj members => "\x7b" ++ String.intercalate "," (memberTexts members) ++ "\x7d"

def itemTexts : List Json → List String
  | [] => []
  | item :: rest => text item :: itemTexts rest

def memberTexts : List (String × Json) → List String
  | [] => []
  | (name, value) :: rest => (quotedText name ++ ":" ++ text value) :: memberTexts rest

end

end Json

end ProxyFleet
