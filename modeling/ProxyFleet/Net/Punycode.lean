/-!
Labels of host names in ASCII. The ASCII characters of a label come first; then every other
character is given, in order of code points, by how far a counter over code points and places moves
on, written in digits whose weights adapt to the numbers before.
-/

namespace ProxyFleet.Net.Punycode

def base : Nat := 36

def digitChar (d : Nat) : Char := if d < 26 then Char.ofNat (97 + d) else Char.ofNat (22 + d)

def digitOf? (c : Char) : Option Nat :=
  if 'a' ≤ c ∧ c ≤ 'z' then some (c.toNat - 97)
  else if 'A' ≤ c ∧ c ≤ 'Z' then some (c.toNat - 65)
  else if '0' ≤ c ∧ c ≤ '9' then some (c.toNat - 22)
  else none

/-- The threshold of the digit with weight index `k`. -/
def threshold (bias k : Nat) : Nat := if k ≤ bias then 1 else min 26 (k - bias)

def adaptLoop (k delta : Nat) : Nat :=
  if h : 455 < delta then adaptLoop (k + base) (delta / 35)
  else k + 36 * delta / (delta + 38)
termination_by delta
decreasing_by omega

/-- The bias after a number; the first one counts for much less. -/
def adapt (delta count : Nat) (first : Bool) : Nat :=
  let delta := if first then delta / 700 else delta / 2
  adaptLoop 0 (delta + delta / count)

/-- The digits of a number, least weight first; one below the threshold is the last. -/
def digits (bias k q : Nat) : List Char :=
  if _ : 0 < threshold bias k ∧ threshold bias k ≤ q then
    digitChar (threshold bias k + (q - threshold bias k) % (base - threshold bias k)) ::
      digits bias (k + base) ((q - threshold bias k) / (base - threshold bias k))
  else [digitChar q]
termination_by q
decreasing_by
  have := Nat.div_le_self (q - threshold bias k) (base - threshold bias k)
  omega

structure State where
  delta : Nat
  bias : Nat
  handled : Nat
  first : Bool

/-- Goes over the label for one code point; each place with it gives a number. -/
def emit (n : Nat) (s : State) : List Nat → State × List Char
  | [] => (s, [])
  | c :: rest =>
    if c < n then emit n { s with delta := s.delta + 1 } rest
    else if c = n then
      let out := digits s.bias base s.delta
      let bias := adapt s.delta (s.handled + 1) s.first
      let (last, more) := emit n ⟨0, bias, s.handled + 1, false⟩ rest
      (last, out ++ more)
    else emit n s rest

/-- Goes on to the next code point of the label until there is none. -/
def emitAll (codes : List Nat) : (points : List Nat) → (n : Nat) → State → List Char
  | [], _, _ => []
  | m :: points, n, s =>
    let s := { s with delta := s.delta + (m - n) * (s.handled + 1) }
    let (s, out) := emit m s codes
    out ++ emitAll codes points (m + 1) { s with delta := s.delta + 1 }

def encode (label : List Char) : List Char :=
  let plain := label.filter (·.toNat < 0x80)
  let codes := label.map Char.toNat
  let points := ((codes.filter (0x80 ≤ ·)).mergeSort (· ≤ ·)).eraseDups
  plain ++ (if plain.isEmpty then [] else ['-']) ++
    emitAll codes points 0x80 ⟨0, 72, plain.length, true⟩

/-- A number in front of a text, and what follows it. -/
def number? (bias : Nat) : (k weight sum : Nat) → List Char → Option (Nat × List Char)
  | _, _, _, [] => none
  | k, weight, sum, c :: rest => do
    let d ← digitOf? c
    let sum := sum + d * weight
    let t := threshold bias k
    if d < t then some (sum, rest)
    else number? bias (k + base) (weight * (base - t)) sum rest

/-- Puts the numbers' characters in; `fuel` bounds how many there are. -/
def insertAll : (fuel n i bias : Nat) → (first : Bool) → List Nat → List Char → Option (List Nat)
  | _, _, _, _, _, codes, [] => some codes
  | 0, _, _, _, _, _, _ => none
  | fuel + 1, n, i, bias, first, codes, cs => do
    let (moved, rest) ← number? bias base 1 0 cs
    let count := codes.length + 1
    let place := (i + moved) % count
    let n := n + (i + moved) / count
    if 0x10ffff < n then none
    else
      insertAll fuel n (place + 1) (adapt moved count first) false
        (codes.take place ++ n :: codes.drop place) rest

/-- The label that an encoded text stands for. -/
def decode? (text : List Char) : Option (List Nat) :=
  let plain := (text.reverse.dropWhile (· ≠ '-')).drop 1 |>.reverse
  let numbers := if text.contains '-' then text.drop (plain.length + 1) else text
  if plain.all (·.toNat < 0x80) then
    insertAll numbers.length 0x80 0 72 true (plain.map Char.toNat) numbers
  else none

end ProxyFleet.Net.Punycode
