/-!
A set of characters given by inclusive ranges of code points. A property of the Unicode character
database is one such table, searched from the front.
-/

namespace ProxyFleet.Text

/-- The code point of `c` lies in one of the ranges. -/
def inRanges (ranges : List (Nat × Nat)) (c : Char) : Bool :=
  ranges.any fun r => r.1 ≤ c.toNat && c.toNat ≤ r.2

end ProxyFleet.Text
