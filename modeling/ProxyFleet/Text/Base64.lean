import ProxyFleet.Text.Utf8

/-!
Base64 in the standard alphabet. Padding is required and the bits it leaves over must be zero, so
that each byte sequence has exactly one encoding.
-/

namespace ProxyFleet.Text.Base64

/-- The digit of a six-bit value. -/
def digit (n : Nat) : Char :=
  if n < 26 then Char.ofNat (65 + n)
  else if n < 52 then Char.ofNat (97 + (n - 26))
  else if n < 62 then Char.ofNat (48 + (n - 52))
  else if n = 62 then '+' else '/'

def value? (c : Char) : Option Nat :=
  if 'A' ≤ c ∧ c ≤ 'Z' then some (c.toNat - 65)
  else if 'a' ≤ c ∧ c ≤ 'z' then some (c.toNat - 97 + 26)
  else if '0' ≤ c ∧ c ≤ '9' then some (c.toNat - 48 + 52)
  else if c = '+' then some 62
  else if c = '/' then some 63
  else none

def encode : Bytes → List Char
  | [] => []
  | [a] => [digit (a.toNat / 4), digit (a.toNat % 4 * 16), '=', '=']
  | [a, b] =>
    [digit (a.toNat / 4), digit (a.toNat % 4 * 16 + b.toNat / 16), digit (b.toNat % 16 * 4), '=']
  | a :: b :: c :: rest =>
    digit (a.toNat / 4) :: digit (a.toNat % 4 * 16 + b.toNat / 16) ::
      digit (b.toNat % 16 * 4 + c.toNat / 64) :: digit (c.toNat % 64) :: encode rest

/-- Four digits that stand for three bytes. -/
def triple? (w x y z : Char) : Option (UInt8 × UInt8 × UInt8) := do
  let w ← value? w
  let x ← value? x
  let y ← value? y
  let z ← value? z
  some ((w * 4 + x / 16).toUInt8, (x % 16 * 16 + y / 4).toUInt8, (y % 4 * 64 + z).toUInt8)

/-- The last four digits of an encoding, with their padding. -/
def last? (w x y z : Char) : Option Bytes :=
  if z = '=' then
    if y = '=' then do
      let w ← value? w
      let x ← value? x
      if x % 16 = 0 then some [(w * 4 + x / 16).toUInt8] else none
    else do
      let w ← value? w
      let x ← value? x
      let y ← value? y
      if y % 4 = 0 then some [(w * 4 + x / 16).toUInt8, (x % 16 * 16 + y / 4).toUInt8] else none
  else (triple? w x y z).map fun (a, b, c) => [a, b, c]

def decode? : List Char → Option Bytes
  | [] => some []
  | [w, x, y, z] => last? w x y z
  | w :: x :: y :: z :: rest => do
    let (a, b, c) ← triple? w x y z
    let more ← decode? rest
    some (a :: b :: c :: more)
  | _ => none

end ProxyFleet.Text.Base64
