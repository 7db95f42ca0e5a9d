import ProxyFleet.Number.Double

/-!
The shortest decimal that reads back as a given double: among the decimals with the fewest digits
inside the interval that rounds to the double, the one nearest to it.
-/

namespace ProxyFleet.Double

/-- The exponent `e` with `10 ^ e ≤ num / den < 10 ^ (e + 1)`. -/
def decimalExponent (num den : Nat) : Int :=
  if den ≤ num then (Nat.toDigits 10 (num / den)).length - 1
  else -((Nat.toDigits 10 ((den - 1) / num)).length : Int)

/-- The decimal of `n` digits in `(low, high)` nearest to `value`, if there is one: all three are
numerators over `den`, `exponent` is that of the value, and `closed` admits the ends. -/
def candidate? (low value high den : Nat) (closed : Bool) (exponent : Int) (n : Nat) :
    Option (Nat × Int) :=
  let unit : Int := exponent - (n - 1)
  let scale := Nat.pow 10 unit.natAbs
  -- with numerators `up` times larger, one unit of the grid is `step`
  let up := if 0 ≤ unit then 1 else scale
  let step := if 0 ≤ unit then den * scale else den
  let below := value * up / step
  let inside (d : Nat) : Bool :=
    let x := d * step
    (low * up < x || (closed && low * up = x)) && (x < high * up || (closed && x = high * up))
  let rest := value * up % step
  let nearest :=
    if inside below && inside (below + 1) then
      if 2 * rest < step || (2 * rest = step && below % 2 = 0) then some below else some (below + 1)
    else if inside below then some below
    else if inside (below + 1) then some (below + 1)
    else none
  nearest.map fun d => (d, unit)

/-- Removes zeros at the end of a decimal, `fuel` of them at most. -/
def dropZeros : Nat → Nat → Int → Nat × Int
  | 0, d, e => (d, e)
  | fuel + 1, d, e => if d ≠ 0 && d % 10 = 0 then dropZeros fuel (d / 10) (e + 1) else (d, e)

/-- Digits and exponent of the shortest decimal for the magnitude of a finite nonzero double. -/
def shortest (x : Double) : Nat × Int :=
  let (m, q) := x.parts
  let wide := m = 1 <<< 52 && -1074 < q
  let up := if 0 ≤ q then 1 <<< q.toNat else 1
  let den := if 0 ≤ q then 4 else 4 <<< (-q).toNat
  let value := 4 * m * up
  let low := (4 * m - if wide then 1 else 2) * up
  let high := (4 * m + 2) * up
  let exponent := decimalExponent value den
  match (List.range 17).findSome? fun n =>
      candidate? low value high den (m % 2 = 0) exponent (n + 1) with
  | some (d, e) => dropZeros 17 d e
  | none => (m, q)

end ProxyFleet.Double
