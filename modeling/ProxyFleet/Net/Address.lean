import ProxyFleet.Number.Digits

/-!
Internet addresses as text. A version 4 address is four decimal numbers without leading zeros; a
version 6 address is eight hexadecimal groups, where two colons stand for one or more zero groups
and a version 4 address may stand for the last two. Version 6 addresses are written in the shortest
form, with the first longest run of two or more zero groups left out. A subnet reads its address in a
free form: there decimal numbers may have zeros in front, and two colons may stand for no group.
-/

namespace ProxyFleet.Net

inductive Address where
  | v4 (bits : BitVec 32)
  | v6 (bits : BitVec 128)
deriving DecidableEq, Repr, Inhabited

open Number (number?)

/-- How an address is read. -/
inductive Form where
  | strict
  | free
deriving DecidableEq, Repr, Inhabited

/-- A decimal number of up to three digits below 256, which in strict form has no zero in front. -/
def octet? (form : Form) (cs : List Char) : Option (Nat × List Char) :=
  match form, cs with
  | .strict, '0' :: c :: _ => if c.isDigit then none else number? 10 3 256 cs
  | _, _ => number? 10 3 256 cs

def octetAfter? (form : Form) (separator : Char) (cs : List Char) : Option (Nat × List Char) :=
  match cs with
  | c :: rest => if c = separator then octet? form rest else none
  | [] => none

/-- A version 4 address at the front of a text, as its four numbers. -/
def octets? (form : Form) (cs : List Char) : Option ((Nat × Nat × Nat × Nat) × List Char) := do
  let (a, cs) ← octet? form cs
  let (b, cs) ← octetAfter? form '.' cs
  let (c, cs) ← octetAfter? form '.' cs
  let (d, cs) ← octetAfter? form '.' cs
  some ((a, b, c, d), cs)

/-- Up to `room` groups with colons between them. A version 4 address counts for two and ends them;
whether it did is the second part. `first` says that no colon is due. -/
def groups (form : Form) : (room : Nat) → (first : Bool) → List Char → List Nat × Bool × List Char
  | 0, _, cs => ([], false, cs)
  | room + 1, first, cs =>
    let body := if first then some cs else match cs with
      | ':' :: rest => some rest
      | _ => none
    match body with
    | none => ([], false, cs)
    | some body =>
      match if room = 0 then none else octets? form body with
      | some ((a, b, c, d), rest) => ([a * 256 + b, c * 256 + d], true, rest)
      | none =>
        match number? 16 4 65536 body with
        | some (g, rest) =>
          let (gs, ended, rest) := groups form room false rest
          (g :: gs, ended, rest)
        | none => ([], false, cs)

def ofGroups (gs : List Nat) : BitVec 128 :=
  BitVec.ofNat 128 (gs.foldl (fun n g => n * 65536 + g) 0)

/-- How many groups two colons have to stand for. -/
def Form.fewestZeros : Form → Nat
  | .strict => 1
  | .free => 0

/-- A version 6 address at the front of a text. -/
def v6? (form : Form) (cs : List Char) : Option (BitVec 128 × List Char) :=
  let (head, ended, rest) := groups form 8 true cs
  if head.length = 8 then some (ofGroups head, rest)
  else if ended then none
  else match rest with
    | ':' :: ':' :: rest =>
      let (tail, _, rest) := groups form (8 - head.length - form.fewestZeros) true rest
      let zeros := List.replicate (8 - head.length - tail.length) 0
      some (ofGroups (head ++ zeros ++ tail), rest)
    | _ => none

def v4? (form : Form) (cs : List Char) : Option (BitVec 32 × List Char) :=
  (octets? form cs).map fun ((a, b, c, d), rest) =>
    (BitVec.ofNat 32 (((a * 256 + b) * 256 + c) * 256 + d), rest)

/-- The address that a whole text stands for. -/
def Address.parse? (text : String) : Option Address :=
  match v4? .strict text.toList with
  | some (bits, []) => some (.v4 bits)
  | _ =>
    match v6? .strict text.toList with
    | some (bits, []) => some (.v6 bits)
    | _ => none

def octetTexts (n : Nat) : List String :=
  [n / 16777216 % 256, n / 65536 % 256, n / 256 % 256, n % 256].map toString

def v4Text (bits : BitVec 32) : String := String.intercalate "." (octetTexts bits.toNat)

/-- The eight groups of a version 6 address. -/
def groupsOf (bits : BitVec 128) : List Nat :=
  (List.range 8).map fun i => (bits.toNat >>> (16 * (7 - i))) % 65536

def groupTexts (gs : List Nat) : String :=
  String.intercalate ":" (gs.map fun g => String.ofList (Nat.toDigits 16 g))

/-- Start and length of the first longest run of zero groups. -/
def longestZeros (gs : List Nat) : Nat × Nat :=
  let runs := (List.range gs.length).map fun i => (i, ((gs.drop i).takeWhile (· = 0)).length)
  runs.foldl (fun best run => if best.2 < run.2 then run else best) (0, 0)

def v6Text (bits : BitVec 128) : String :=
  if bits.toNat / 4294967296 = 0xffff then "::ffff:" ++ v4Text (bits.setWidth 32)
  else
    let gs := groupsOf bits
    let (start, length) := longestZeros gs
    if 1 < length then
      groupTexts (gs.take start) ++ "::" ++ groupTexts (gs.drop (start + length))
    else groupTexts gs

def Address.text : Address → String
  | .v4 bits => v4Text bits
  | .v6 bits => v6Text bits

/-- `host:port`, with brackets around a version 6 address. -/
def authority (host : String) (port : Nat) : String :=
  match v6? .strict host.toList with
  | some (_, []) => "[" ++ host ++ "]:" ++ toString port
  | _ => host ++ ":" ++ toString port

end ProxyFleet.Net
