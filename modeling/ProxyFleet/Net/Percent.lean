import ProxyFleet.Number.Digits
import ProxyFleet.Text.Utf8

/-!
Percent encoding: a byte is written as a percent sign and two hexadecimal digits in upper case.
-/

namespace ProxyFleet.Net

def upperHex (n : Nat) : Char := if n < 10 then Char.ofNat (48 + n) else Char.ofNat (55 + n)

def escapeByte (b : UInt8) : List Char :=
  ['%', upperHex (b.toNat / 16), upperHex (b.toNat % 16)]

/-- The text with every character that is not plain written as its escaped bytes. -/
def escape (plain : Char → Bool) (cs : List Char) : List Char :=
  cs.flatMap fun c =>
    if plain c then [c] else (Text.utf8 (String.singleton c)).flatMap escapeByte

/-- The bytes of a text in which two digits behind a percent sign stand for a byte. A percent sign
without them stands for itself. -/
def unescape : List Char → Text.Bytes
  | '%' :: a :: b :: rest =>
    match Number.digitValue? a, Number.digitValue? b with
    | some x, some y => (x * 16 + y).toUInt8 :: unescape rest
    | _, _ => 0x25 :: unescape (a :: b :: rest)
  | c :: rest => Text.utf8 (String.singleton c) ++ unescape rest
  | [] => []
termination_by cs => cs.length

end ProxyFleet.Net
