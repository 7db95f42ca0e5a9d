import ProxyFleet.Net.Address

/-!
Subnets: an address and the number of its leading bits that all addresses of the subnet share.
-/

namespace ProxyFleet.Net

open Number (number?)

/-- A subnet, given by any of its addresses. -/
structure Subnet where
  address : Address
  length : Nat
deriving DecidableEq, Repr, Inhabited

/-- The address with all bits behind the first `length` cleared. -/
def Address.clearAfter (length : Nat) : Address → Address
  | .v4 bits => .v4 (bits >>> (32 - length) <<< (32 - length))
  | .v6 bits => .v6 (bits >>> (128 - length) <<< (128 - length))

/-- The length of a subnet behind a slash, up to the end of the text. -/
def lengthAfter? (digits limit : Nat) (cs : List Char) : Option Nat :=
  match cs with
  | '/' :: rest =>
    match number? 10 digits limit rest with
    | some (n, []) => some n
    | _ => none
  | _ => none

namespace Subnet

def parse4? (cs : List Char) : Option Subnet := do
  let (bits, rest) ← v4? .free cs
  let length ← lengthAfter? 2 33 rest
  some ⟨.v4 bits, length⟩

def parse6? (cs : List Char) : Option Subnet := do
  let (bits, rest) ← v6? .free cs
  let length ← lengthAfter? 3 129 rest
  some ⟨.v6 bits, length⟩

def parse? (text : String) : Option Subnet :=
  (parse4? text.toList).or (parse6? text.toList)

def text (s : Subnet) : String := s.address.text ++ "/" ++ toString s.length

/-- The subnet given by its first address. -/
def truncated (s : Subnet) : Subnet := { s with address := s.address.clearAfter s.length }

/-- An address of the same version with the same leading bits. -/
def contains (s : Subnet) (a : Address) : Bool :=
  a.clearAfter s.length = s.address.clearAfter s.length

end Subnet

/-- An address that may carry the length of its subnet. -/
def Address.parseWithin? (text : String) : Option Address :=
  match Subnet.parse? text with
  | some s => some s.address
  | none => Address.parse? text

end ProxyFleet.Net
