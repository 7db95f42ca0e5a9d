import ProxyFleet.Net.Address

/-!
Addresses with ports. A version 6 address stands in brackets, where a number behind a percent sign
may tell the interface on which it is meant.
-/

namespace ProxyFleet.Net

open Number (number?)

structure Socket where
  address : Address
  port : Nat
  /-- Nothing is the same as zero; only version 6 addresses have one. -/
  scope : Nat := 0
deriving DecidableEq, Repr, Inhabited

namespace Socket

/-- A colon and a port up to the end of the text. -/
def portAfter? (cs : List Char) : Option Nat :=
  match cs with
  | ':' :: digits =>
    match number? 10 digits.length 65536 digits with
    | some (port, []) => some port
    | _ => none
  | _ => none

def scope? (cs : List Char) : Option (Nat × List Char) :=
  match cs with
  | '%' :: digits => number? 10 digits.length 4294967296 digits
  | _ => some (0, cs)

def parse4? (cs : List Char) : Option Socket := do
  let (bits, rest) ← v4? .strict cs
  let port ← portAfter? rest
  some ⟨.v4 bits, port, 0⟩

def parse6? (cs : List Char) : Option Socket := do
  match cs with
  | '[' :: inner =>
    let (bits, rest) ← v6? .strict inner
    match ← scope? rest with
    | (scope, ']' :: rest) =>
      let port ← portAfter? rest
      some ⟨.v6 bits, port, scope⟩
    | _ => none
  | _ => none

def parse? (text : String) : Option Socket := (parse4? text.toList).or (parse6? text.toList)

def text (s : Socket) : String :=
  match s.address with
  | .v4 _ => s.address.text ++ ":" ++ toString s.port
  | .v6 _ =>
    let scope := if s.scope = 0 then "" else "%" ++ toString s.scope
    "[" ++ s.address.text ++ scope ++ "]:" ++ toString s.port

end Socket

end ProxyFleet.Net
