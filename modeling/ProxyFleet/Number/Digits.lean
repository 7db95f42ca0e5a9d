/-!
Numbers written in digits, in bases up to sixteen. Letters stand for digits in either case.
-/

namespace ProxyFleet.Number

/-- The value of a digit in bases up to sixteen. -/
def digitValue? (c : Char) : Option Nat :=
  if '0' ≤ c ∧ c ≤ '9' then some (c.toNat - 48)
  else if 'a' ≤ c ∧ c ≤ 'f' then some (c.toNat - 87)
  else if 'A' ≤ c ∧ c ≤ 'F' then some (c.toNat - 55)
  else none

def isDigitIn (base : Nat) (c : Char) : Bool := (digitValue? c).any (· < base)

def digitsValue (base : Nat) (digits : List Char) : Nat :=
  digits.foldl (fun n c => n * base + (digitValue? c).getD 0) 0

/-- A number of at most `most` digits and below `limit` at the front of a text. -/
def number? (base most limit : Nat) (cs : List Char) : Option (Nat × List Char) :=
  let digits := cs.takeWhile (isDigitIn base)
  let n := digitsValue base digits
  if digits.isEmpty || most < digits.length || limit ≤ n then none
  else some (n, cs.dropWhile (isDigitIn base))

end ProxyFleet.Number
