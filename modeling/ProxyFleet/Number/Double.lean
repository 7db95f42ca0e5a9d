/-!
Double-precision numbers as bit patterns, computed with exactly. A quotient of natural numbers is
rounded to the nearest double, a tie going to the even significand, and products and quotients of
doubles are the rounded exact ones. Nothing here computes with machine floats.
-/

namespace ProxyFleet

/-- A double-precision number, given by its bits. Values that are not numbers do not occur. -/
structure Double where
  bits : UInt64
deriving DecidableEq, Inhabited, Repr

namespace Double

def isNegative (x : Double) : Bool := 1 <<< 63 ≤ x.bits.toNat

def magnitudeBits (x : Double) : Nat := x.bits.toNat % (1 <<< 63)

def isFinite (x : Double) : Bool := x.magnitudeBits < 2047 <<< 52

/-- The significand `m` and the exponent `q` of the magnitude `m * 2 ^ q`. -/
def parts (x : Double) : Nat × Int :=
  let biased : Nat := x.magnitudeBits >>> 52
  let fraction : Nat := x.magnitudeBits % (1 <<< 52)
  if biased = 0 then (fraction, -1074) else (fraction + (1 <<< 52), (biased : Int) - 1075)

def ofMagnitude (negative : Bool) (bits : Nat) : Double :=
  ⟨((if negative then 1 <<< 63 else 0) + bits).toUInt64⟩

def infinityBits : Nat := 2047 <<< 52

/-- `num / den` rounded to the nearest natural number, a tie to the even one. -/
def roundQuotient (num den : Nat) : Nat :=
  let q := num / den
  let r := num % den
  if 2 * r < den then q
  else if den < 2 * r then q + 1
  else q + q % 2

/-- The exponent `k` with `2 ^ k ≤ num / den < 2 ^ (k + 1)`. -/
def binaryExponent (num den : Nat) : Int :=
  let k : Int := (Nat.log2 num : Int) - Nat.log2 den
  let below := if 0 ≤ k then num < den <<< k.toNat else num <<< (-k).toNat < den
  if below then k - 1 else k

/-- The double nearest to `num / den`, infinite where that lies beyond the largest double. -/
def ofRatio (negative : Bool) (num den : Nat) : Double :=
  if num = 0 || den = 0 then ofMagnitude negative 0
  else
    let q := max (binaryExponent num den - 52) (-1074)
    let m := if 0 ≤ q then roundQuotient num (den <<< q.toNat)
      else roundQuotient (num <<< (-q).toNat) den
    let bits := if m < 1 <<< 52 then m else ((q + 1075).toNat <<< 52) + (m - (1 <<< 52))
    ofMagnitude negative (min bits infinityBits)

def ofNat (n : Nat) : Double := ofRatio false n 1

def neg (x : Double) : Double := ofMagnitude (!x.isNegative) x.magnitudeBits

/-- The magnitude as a quotient of natural numbers. -/
def ratio (x : Double) : Nat × Nat :=
  let (m, q) := x.parts
  if 0 ≤ q then (m <<< q.toNat, 1) else (m, 1 <<< (-q).toNat)

/-- The rounded product of finite doubles. -/
def mul (x y : Double) : Double :=
  ofRatio (x.isNegative != y.isNegative) (x.ratio.1 * y.ratio.1) (x.ratio.2 * y.ratio.2)

/-- The rounded quotient of finite doubles. -/
def div (x y : Double) : Double :=
  ofRatio (x.isNegative != y.isNegative) (x.ratio.1 * y.ratio.2) (x.ratio.2 * y.ratio.1)

/-- The double nearest to `digits * 10 ^ exponent`. Exponents far beyond the range of doubles are
decided by magnitude alone. -/
def ofDecimal (negative : Bool) (digits : Nat) (exponent : Int) : Double :=
  let length : Int := (Nat.toDigits 10 digits).length
  if digits = 0 || length + exponent < -400 then ofMagnitude negative 0
  else if 400 < length + exponent then ofMagnitude negative infinityBits
  else if 0 ≤ exponent then ofRatio negative (digits * Nat.pow 10 exponent.toNat) 1
  else ofRatio negative digits (Nat.pow 10 (-exponent).toNat)

end Double

end ProxyFleet
