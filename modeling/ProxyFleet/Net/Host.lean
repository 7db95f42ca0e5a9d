import ProxyFleet.Net.Address
import ProxyFleet.Net.Domain
import ProxyFleet.Net.Percent

/-!
The host of a URL. For schemes of the web it is a domain or an address: a domain whose last label is
a number has to be a version 4 address, whose numbers may be octal or hexadecimal and the last of
which may fill several bytes. For other schemes any text without reserved characters is a host.
Version 6 addresses stand in brackets.
-/

namespace ProxyFleet.Net

inductive UrlFault where
  | noScheme
  | emptyHost
  | badDomain
  | badHostCharacter
  | badPort
  | badV4
  | badV6
deriving DecidableEq, Repr, Inhabited

def UrlFault.message : UrlFault → String
  | .noScheme => "relative URL without a base"
  | .emptyHost => "empty host"
  | .badDomain => "invalid international domain name"
  | .badHostCharacter => "invalid domain character"
  | .badPort => "invalid port number"
  | .badV4 => "invalid IPv4 address"
  | .badV6 => "invalid IPv6 address"

namespace Host

def isControl (c : Char) : Bool := c.toNat < 0x20 || c.toNat = 0x7f

/-- The characters that part a URL and so cannot stand in a host. -/
def isReserved (c : Char) : Bool :=
  "\x00\t\n\r #/:<>?@[\\]^|".toList.contains c

/-! Version 6 addresses. Unlike elsewhere none of their groups is ever written in decimal. -/

def v6Text (bits : BitVec 128) : String :=
  let gs := groupsOf bits
  let (start, length) := longestZeros gs
  if 1 < length then groupTexts (gs.take start) ++ "::" ++ groupTexts (gs.drop (start + length))
  else groupTexts gs

/-- The address after an opening bracket. -/
def bracketed? (cs : List Char) : Except UrlFault String :=
  match cs.reverse with
  | ']' :: inner =>
    match v6? .strict inner.reverse with
    | some (bits, []) => .ok ("[" ++ v6Text bits ++ "]")
    | _ => .error .badV6
  | _ => .error .badV6

/-! Version 4 addresses. -/

/-- The base of a number by how it begins, and its digits. -/
def radix : List Char → Nat × List Char
  | '0' :: 'x' :: rest | '0' :: 'X' :: rest => (16, rest)
  | '0' :: d :: rest => (8, d :: rest)
  | cs => (10, cs)

/-- A part of an address; hexadecimal without digits is zero. -/
def part? (cs : List Char) : Option Nat :=
  let (base, digits) := radix cs
  if cs.isEmpty || !digits.all (Number.isDigitIn base) then none
  else some (Number.digitsValue base digits)

/-- The labels of a domain, without the empty one behind a final dot. -/
def labels (cs : List Char) : List (List Char) :=
  match (cs.splitOn '.').reverse with
  | [] :: rest => rest.reverse
  | all => all.reverse

/-- A domain that ends in a number can only be an address. -/
def endsInNumber (cs : List Char) : Bool :=
  match (labels cs).reverse with
  | [] => false
  | last :: _ => !last.isEmpty && (last.all Char.isDigit || (part? last).isSome)

/-- The address with these numbers, of which the last fills the bytes that are left. -/
def v4OfParts? (parts : List Nat) : Option (BitVec 32) :=
  match parts.reverse with
  | [] => none
  | last :: before =>
    let before := before.reverse
    let room := 8 * (4 - before.length)
    if 3 < before.length || before.any (255 < ·) || 1 <<< room ≤ last then none
    else some (BitVec.ofNat 32 ((before.foldl (fun n b => n * 256 + b) 0 <<< room) + last))

def v4? (cs : List Char) : Except UrlFault String :=
  match ((labels cs).mapM part?).bind v4OfParts? with
  | some bits => .ok (v4Text bits)
  | none => .error .badV4

def decoded (cs : List Char) : List Char := (Text.lossy (unescape cs)).toList

/-- The host of a URL of the web. -/
def ofWeb (cs : List Char) : Except UrlFault String :=
  match cs with
  | '[' :: rest => bracketed? rest
  | _ =>
    match Domain.ascii? (decoded cs) with
    | none => .error .badDomain
    | some [] => .error .emptyHost
    | some domain => if endsInNumber domain then v4? domain else .ok (String.ofList domain)

/-- The host of a URL of another scheme. -/
def ofOther (cs : List Char) : Except UrlFault String :=
  match cs with
  | '[' :: rest => bracketed? rest
  | _ =>
    if cs.any isReserved then .error .badHostCharacter
    else .ok (String.ofList (escape (fun c => c.toNat < 0x80 && !isControl c) cs))

end Host

end ProxyFleet.Net
