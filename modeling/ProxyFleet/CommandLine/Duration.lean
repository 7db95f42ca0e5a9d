import ProxyFleet.Text.Blank

/-!
Spans of time as text: numbers with units, one after the other, as in `1h 30m`. A number may have a
decimal fraction; blanks may stand anywhere but in a unit.
-/

namespace ProxyFleet.CommandLine

structure Duration where
  seconds : Nat
  /-- Less than a second. -/
  nanos : Nat
deriving DecidableEq, Repr, Inhabited

namespace Duration

def zero : Duration := ⟨0, 0⟩

def nanosPerSecond : Nat := 1000000000

def wordMax : Nat := UInt64.size - 1

/-- A number that fits a word. -/
def word? (n : Nat) : Option Nat := if n ≤ wordMax then some n else none

/-- Sums of seconds and nanoseconds have to fit words. -/
def add? (d : Duration) (seconds nanos : Nat) : Option Duration := do
  let nanos ← word? (d.nanos + nanos)
  let seconds ← word? (d.seconds + seconds + nanos / nanosPerSecond)
  some ⟨seconds, nanos % nanosPerSecond⟩

inductive TimeUnit where
  | nano
  | micro
  | milli
  | second
  | minute
  | hour
  | day
  | week
  | month
  | year
deriving DecidableEq, Repr, Inhabited

def unitNames : List (String × TimeUnit) := [
  ("nanos", .nano), ("nsec", .nano), ("ns", .nano),
  ("usec", .micro), ("us", .micro), ("µs", .micro),
  ("millis", .milli), ("msec", .milli), ("ms", .milli),
  ("seconds", .second), ("second", .second), ("secs", .second), ("sec", .second), ("s", .second),
  ("minutes", .minute), ("minute", .minute), ("min", .minute), ("mins", .minute), ("m", .minute),
  ("hours", .hour), ("hour", .hour), ("hrs", .hour), ("hr", .hour), ("h", .hour),
  ("days", .day), ("day", .day), ("d", .day),
  ("weeks", .week), ("week", .week), ("wks", .week), ("wk", .week), ("w", .week),
  ("months", .month), ("month", .month), ("M", .month),
  ("years", .year), ("year", .year), ("yrs", .year), ("yr", .year), ("y", .year)]

/-- Seconds and nanoseconds in a unit. A month is the twelfth part of a year of 365.25 days, to the
hundredth of a day. -/
def TimeUnit.size : TimeUnit → Nat × Nat
  | .nano => (0, 1)
  | .micro => (0, 1000)
  | .milli => (0, 1000000)
  | .second => (1, 0)
  | .minute => (60, 0)
  | .hour => (3600, 0)
  | .day => (86400, 0)
  | .week => (604800, 0)
  | .month => (2630016, 0)
  | .year => (31557600, 0)

/-- What a fraction of a unit is counted in: nanoseconds, or from hours on seconds. Nanoseconds have
no fractions. -/
def TimeUnit.fine? : TimeUnit → Option (Nat × Nat)
  | .nano => none
  | .micro => some (0, 1000)
  | .milli => some (0, 1000000)
  | .second => some (0, nanosPerSecond)
  | .minute => some (0, 60 * nanosPerSecond)
  | unit => some unit.size

/-- A quotient without a remainder. -/
def exactly? (n d : Nat) : Option Nat := if n % d = 0 then some (n / d) else none

/-- Adds `whole` units and the fraction `part` of one, which has to come out even. -/
def addUnits? (d : Duration) (unit : TimeUnit) (whole : Nat) (part : Option (Nat × Nat)) :
    Option Duration := do
  let (s, n) := unit.size
  let d ← d.add? (← word? (whole * s)) (← word? (whole * n))
  match part with
  | none => some d
  | some (num, den) =>
    let (s, n) ← unit.fine?
    d.add? (← exactly? (← word? (num * s)) den) (← exactly? (← word? (num * n)) den)

def isUnitChar (c : Char) : Bool := c.isAlpha || c = 'µ'

/-- The digits at the front of a text and what follows them; blanks among them do not count. -/
def digits (cs : List Char) : List Char × List Char :=
  let isDigitOrBlank (c : Char) : Bool := c.isDigit || Text.isBlank c
  ((cs.takeWhile isDigitOrBlank).filter Char.isDigit, cs.dropWhile isDigitOrBlank)

def value (digits : List Char) : Nat := digits.foldl (fun n c => n * 10 + (c.toNat - 48)) 0

/-- A number and a fraction at the front of a text, and what follows them. -/
def amount? (cs : List Char) : Option (Nat × Option (Nat × Nat) × List Char) := do
  let (whole, rest) := digits cs
  if whole.isEmpty then none
  else
    let n ← word? (value whole)
    match rest with
    | '.' :: rest =>
      let (part, rest) := digits rest
      let den ← word? (Nat.pow 10 part.length)
      if part.isEmpty then none else some (n, some (value part, den), rest)
    | _ => some (n, none, rest)

/-- Adds all that a text spells to `d`; `fuel` bounds the number of its units. -/
def readAll? : (fuel : Nat) → Duration → List Char → Option Duration
  | 0, _, _ => none
  | fuel + 1, d, cs => do
    let (whole, part, rest) ← amount? (Text.trimStart cs)
    let unit ← unitNames.lookup (String.ofList (rest.takeWhile isUnitChar))
    let d ← d.addUnits? unit whole part
    match Text.trimStart (rest.dropWhile isUnitChar) with
    | [] => some d
    | rest => readAll? fuel d rest

def parse? (text : String) : Option Duration :=
  if text = "0" then some zero else readAll? text.length zero text.toList

/-- In milliseconds, where a part of one counts for nothing. -/
def milliseconds (d : Duration) : Nat := d.seconds * 1000 + d.nanos / 1000000

end Duration

end ProxyFleet.CommandLine
