import ProxyFleet.Json.Basic
import ProxyFleet.Number.Digits

/-!
Reading JSON text. A number without point and exponent is an integer if it fits the 64-bit words,
signed below zero and unsigned above; any other is a double, computed from as many digits as fit a
word, before the point and again behind it. A number too large for a double is unreadable, and so is
a string in which an escaped surrogate stands outside of a pair, or an object with such a name. Depth
of nesting is bounded by the length of the text alone.
-/

namespace ProxyFleet.Json

def isSpace (c : Char) : Bool :=
  c = ' ' || c = '\n' || c = '\t' || c = '\r'

def skipSpace (cs : List Char) : List Char := cs.dropWhile isSpace

/-! Strings -/

def fourHex? : List Char → Option (Nat × List Char)
  | a :: b :: c :: d :: rest => do
    let a ← Number.digitValue? a
    let b ← Number.digitValue? b
    let c ← Number.digitValue? c
    let d ← Number.digitValue? d
    some (((a * 16 + b) * 16 + c) * 16 + d, rest)
  | _ => none

/-- What an escape that has begun with a backslash and a `u` stands for: a character, unless it is a
surrogate without its other half. -/
def unicodeEscape? (cs : List Char) : Option (Option Char × List Char) := do
  let (n, rest) ← fourHex? cs
  if n < 0xd800 ∨ 0xdfff < n then some (some (Char.ofNat n), rest)
  else
    match rest with
    | '\\' :: 'u' :: more =>
      let (low, after) ← fourHex? more
      if n < 0xdc00 ∧ 0xdc00 ≤ low ∧ low ≤ 0xdfff then
        some (some (Char.ofNat (0x10000 + (n - 0xd800) * 0x400 + (low - 0xdc00))), after)
      else some (none, rest)
    | _ => some (none, rest)

def simpleEscape? : Char → Option Char
  | '"' => some '"'
  | '\\' => some '\\'
  | '/' => some '/'
  | 'b' => some (Char.ofNat 8)
  | 'f' => some (Char.ofNat 12)
  | 'n' => some '\n'
  | 'r' => some '\r'
  | 't' => some '\t'
  | _ => none

/-- The text of a string up to its closing quote, whose characters so far are in `read`, the newest
first; nothing is read once a part of the string is unreadable. -/
def stringBody? : Nat → Option (List Char) → List Char → Option (Option String × List Char)
  | 0, _, _ => none
  | fuel + 1, read, cs =>
    match cs with
    | [] => none
    | '"' :: rest => some (read.map fun cs => String.ofList cs.reverse, rest)
    | '\\' :: 'u' :: rest => do
      let (c, rest) ← unicodeEscape? rest
      stringBody? fuel (c.bind fun c => read.map (c :: ·)) rest
    | '\\' :: e :: rest => do
      let c ← simpleEscape? e
      stringBody? fuel (read.map (c :: ·)) rest
    | c :: rest =>
      if c.toNat < 0x20 then none else stringBody? fuel (read.map (c :: ·)) rest

def string? (cs : List Char) : Option (Option String × List Char) :=
  stringBody? (cs.length + 1) (some []) cs

/-! Numbers -/

def wordMax : Nat := UInt64.size - 1

/-- Reads digits into a word as long as they fit: the word, and how many digits it has taken. -/
def significand (n : Nat) : List Char → Nat × Nat
  | [] => (n, 0)
  | d :: rest =>
    let next := n * 10 + (d.toNat - 48)
    if wordMax < next then (n, 0)
    else
      let (n, taken) := significand next rest
      (n, taken + 1)

/-- A significand times a power of ten, with one rounding for each. Nothing if it is too large. -/
def scaled? (negative : Bool) (digits : Nat) (exponent : Int) : Option Double :=
  let x := Double.ofNat digits
  let magnitude :=
    if exponent < -308 then
      let y := x.div (Double.ofDecimal false 1 308)
      if exponent + 308 < -308 then Double.ofNat 0
      else y.div (Double.ofDecimal false 1 (-(exponent + 308)))
    else if exponent < 0 then x.div (Double.ofDecimal false 1 (-exponent))
    else if 308 < exponent then if digits = 0 then x else ⟨Double.infinityBits.toUInt64⟩
    else x.mul (Double.ofDecimal false 1 exponent)
  if magnitude.isFinite then some (if negative then magnitude.neg else magnitude) else none

/-- The digits after a point; at least one is required. -/
def fraction? (cs : List Char) : Option (List Char × List Char) :=
  match cs with
  | '.' :: rest =>
    let digits := rest.takeWhile Char.isDigit
    if digits.isEmpty then none else some (digits, rest.dropWhile Char.isDigit)
  | _ => some ([], cs)

/-- An exponent with its sign; nothing is the exponent that is not there. -/
def exponent? (cs : List Char) : Option (Option Int × List Char) :=
  let signed (sign : Int) (rest : List Char) : Option (Option Int × List Char) :=
    let digits := rest.takeWhile Char.isDigit
    if digits.isEmpty then none
    else
      let n : Nat := digits.foldl (fun n d => min (n * 10 + (d.toNat - 48)) 100000000) 0
      some (some (sign * n), rest.dropWhile Char.isDigit)
  match cs with
  | 'e' :: '-' :: rest | 'E' :: '-' :: rest => signed (-1) rest
  | 'e' :: '+' :: rest | 'E' :: '+' :: rest => signed 1 rest
  | 'e' :: rest | 'E' :: rest => signed 1 rest
  | _ => some (none, cs)

def wholeNumber (negative : Bool) (n : Nat) : Json :=
  if !negative then .int n
  else if n = 0 || 0x8000000000000000 < n then .double (Double.ofNat n).neg
  else .int (-(n : Int))

def unsigned? (negative : Bool) (cs : List Char) : Option (Json × List Char) := do
  let whole := cs.takeWhile Char.isDigit
  match whole with
  | [] => none
  | '0' :: _ :: _ => none
  | _ =>
    let (places, rest) ← fraction? (cs.dropWhile Char.isDigit)
    let (exponent, rest) ← exponent? rest
    let (n, taken) := significand 0 whole
    let dropped := whole.length - taken
    if places.isEmpty && exponent.isNone && dropped = 0 then
      some (wholeNumber negative n, rest)
    else
      let (m, after) := significand n places
      let x := scaled? negative m ((dropped : Int) - after + exponent.getD 0)
      some ((x.map .double).getD .unreadable, rest)

def number? (cs : List Char) : Option (Json × List Char) :=
  match cs with
  | '-' :: rest => unsigned? true rest
  | _ => unsigned? false cs

/-! Documents -/

/-- The object with some members, if all names can be read. -/
def objectOf (members : List (Option String × Json)) : Json :=
  match members.mapM fun m => m.1.map (·, m.2) with
  | some members => .obj members
  | none => .unreadable

mutual

/-- A value at the front of the text. -/
def value? : Nat → List Char → Option (Json × List Char)
  | 0, _ => none
  | fuel + 1, cs =>
    match skipSpace cs with
    | 'n' :: 'u' :: 'l' :: 'l' :: rest => some (.null, rest)
    | 't' :: 'r' :: 'u' :: 'e' :: rest => some (.bool true, rest)
    | 'f' :: 'a' :: 'l' :: 's' :: 'e' :: rest => some (.bool false, rest)
    | '"' :: rest => (string? rest).map fun (s, rest) => ((s.map .str).getD .unreadable, rest)
    | '[' :: rest =>
      match skipSpace rest with
      | ']' :: rest => some (.arr [], rest)
      | _ => (items? fuel rest).map fun (items, rest) => (.arr items, rest)
    | '\x7b' :: rest =>
      match skipSpace rest with
      | '\x7d' :: rest => some (.obj [], rest)
      | _ => (members? fuel rest).map fun (members, rest) => (objectOf members, rest)
    | rest => number? rest

/-- The items of a list that has at least one, up to its closing bracket. -/
def items? : Nat → List Char → Option (List Json × List Char)
  | 0, _ => none
  | fuel + 1, cs => do
    let (item, rest) ← value? fuel cs
    match skipSpace rest with
    | ']' :: rest => some ([item], rest)
    | ',' :: rest =>
      let (items, rest) ← items? fuel rest
      some (item :: items, rest)
    | _ => none

/-- The members of an object that has at least one, up to its closing brace. -/
def members? : Nat → List Char → Option (List (Option String × Json) × List Char)
  | 0, _ => none
  | fuel + 1, cs =>
    match skipSpace cs with
    | '"' :: rest => do
      let (name, rest) ← string? rest
      match skipSpace rest with
      | ':' :: rest =>
        let (value, rest) ← value? fuel rest
        match skipSpace rest with
        | '\x7d' :: rest => some ([(name, value)], rest)
        | ',' :: rest =>
          let (members, rest) ← members? fuel rest
          some ((name, value) :: members, rest)
        | _ => none
      | _ => none
    | _ => none

end

/-- The document that a text holds, with nothing but blanks around it. -/
def parse? (text : String) : Option Json := do
  let cs := text.toList
  let (json, rest) ← value? (2 * cs.length + 2) cs
  if (skipSpace rest).isEmpty then some json else none

end ProxyFleet.Json
