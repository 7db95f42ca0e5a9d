import ProxyFleet.CommandLine.Pattern

/-!
Which log records are written, and how. A filter is a list of directives between commas: a level for
all records, or a target, a span in brackets with at most one of its fields in braces, and a level.
-/

namespace ProxyFleet.CommandLine

inductive LogFormat where
  | plain
  | json
deriving DecidableEq, Repr, Inhabited

def LogFormat.parse? (text : String) : Option LogFormat :=
  if text = "plain" then some .plain
  else if text = "json" then some .json
  else none

structure LogFilter where
  text : String
deriving DecidableEq, Repr, Inhabited

namespace LogFilter

def levels : List String := ["trace", "debug", "info", "warn", "error", "off"]

def dropPlus (cs : List Char) : List Char :=
  match cs with
  | '+' :: rest => rest
  | _ => cs

/-- Levels are written in letters of either case, or as numbers up to five. -/
def isLevel (cs : List Char) : Bool :=
  let digits := dropPlus cs
  levels.contains (String.ofList (cs.map Char.toLower)) ||
    (!digits.isEmpty && digits.all Char.isDigit &&
      digits.foldl (fun n c => n * 10 + (c.toNat - '0'.toNat)) 0 ≤ 5)

def areDigits (cs : List Char) : Bool := !cs.isEmpty && cs.all Char.isDigit

/-- A decimal number without a sign, or a name of one that is not finite. -/
def isNumber (cs : List Char) : Bool :=
  let isExponent (c : Char) : Bool := c = 'e' || c = 'E'
  let mantissa := cs.takeWhile (!isExponent ·)
  let whole := mantissa.takeWhile (· ≠ '.')
  let fraction := (mantissa.dropWhile (· ≠ '.')).drop 1
  ["inf", "infinity", "nan"].contains (String.ofList (cs.map Char.toLower)) ||
    (areDigits (whole ++ fraction) &&
      match cs.dropWhile (!isExponent ·) with
      | [] => true
      | _ :: '-' :: digits => areDigits digits
      | _ :: digits => areDigits (dropPlus digits))

/-- A value is a number, a truth value or a pattern. Without a plus sign in front all of them are
patterns too. -/
def isValue (cs : List Char) : Bool :=
  match cs with
  | '+' :: rest => isNumber rest
  | _ => isPattern cs

/-- A field is a name, and a value that it must have; nothing is asked of what follows a second
equals sign. -/
def isField (cs : List Char) : Bool :=
  match cs.dropWhile (· ≠ '=') with
  | [] => !cs.isEmpty
  | _ :: value => isValue (value.takeWhile (· ≠ '='))

/-- The characters whose first byte is one of those from `start` up to `stop`. -/
def slice (cs : List Char) (start stop : Nat) : List Char :=
  match cs with
  | [] => []
  | c :: rest =>
    let rest := slice rest (start - c.utf8Size) (stop - c.utf8Size)
    if start = 0 ∧ 0 < stop then c :: rest else rest

def byteSize (cs : List Char) : Nat := (String.ofList cs).utf8ByteSize

/-- Without blanks around it, a directive may end with a level. -/
def endsDirective (whole : List Char) (cs : List Char) : Bool :=
  match cs with
  | [] => true
  | '=' :: level =>
    (level.isEmpty || isLevel level) && Text.trimEnd (Text.trimStart whole) == whole
  | _ => false

def isSpanEnd (c : Char) : Bool := c = ']' || c = '{'

/-- A span without its first bracket, and what follows. A field is looked up in the directive as it
is, at the place that it has without the blanks in front. -/
def endsSpan (whole trimmed cs : List Char) : Bool :=
  match cs.dropWhile (!isSpanEnd ·) with
  | [] => false
  | ']' :: rest => endsDirective whole rest
  | _ :: field =>
    match field.dropWhile (· ≠ '}') with
    | '}' :: ']' :: rest =>
      let start := byteSize trimmed - byteSize field
      isField (slice whole start (start + byteSize (field.takeWhile (· ≠ '}')))) &&
        endsDirective whole rest
    | _ => false

def isTargetStart (c : Char) : Bool := Text.isLetterOrNumber c || "-:_".toList.contains c

def isTargetEnd (c : Char) : Bool := c = '=' || c = '['

/-- A level alone reads like a target alone. -/
def isDirective (whole : List Char) : Bool :=
  let trimmed := Text.trimEnd (Text.trimStart whole)
  match trimmed with
  | [] => false
  | '[' :: rest => endsSpan whole trimmed rest
  | c :: _ =>
    isTargetStart c &&
      match trimmed.dropWhile (!isTargetEnd ·) with
      | '[' :: rest => endsSpan whole trimmed rest
      | rest => endsDirective whole rest

/-- Nothing between two commas is no directive. -/
def parse? (text : String) : Option LogFilter :=
  let directives := (text.splitOn ",").filter (· ≠ "")
  if directives.all fun d => isDirective d.toList then some ⟨text⟩ else none

end LogFilter

end ProxyFleet.CommandLine
