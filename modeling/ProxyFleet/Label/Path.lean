import ProxyFleet.Caddyfile.Block
import ProxyFleet.Text.Word

/-!
The name of a label is a path of segments set apart by points. A segment `2_route_1` asks for the
place 2 among its siblings, names the directive `route` and is told apart from other segments with
that name by the number behind it. Both numbers may be missing. No segment is empty, and only the
last may hold a line break.
-/

namespace ProxyFleet.Label

abbrev Segment := List Char

/-- Cuts at every point; there is always at least one segment. -/
def segments : List Char → List Segment
  | [] => [[]]
  | c :: rest =>
    if c = '.' then [] :: segments rest
    else
      match segments rest with
      | [] => [[c]]
      | s :: more => (c :: s) :: more

def joined (path : List Segment) : List Char := ['.'].intercalate path

/-- The longest path at fault among the one given, last segment first, and the paths it begins
with. -/
def fault? : (last : List Segment) → Option (List Char)
  | [] => none
  | [s] => if s.isEmpty then some s else none
  | s :: parents =>
    let parent := joined parents.reverse
    if s.isEmpty || parent.isEmpty || parent.contains '\n' then some (joined (s :: parents).reverse)
    else fault? parents

/-- The segments of a label, or the path at fault. -/
def path? (label : String) : Except String (List Segment) :=
  let path := segments label.toList
  match fault? path.reverse with
  | some fault => .error (String.ofList fault)
  | none => .ok path

namespace Segment

/-- The digits that ask for a place, and the rest of the segment behind the underscore. -/
def placed (s : Segment) : Option (List Char) × List Char :=
  let digits := s.takeWhile Text.isDecimalDigit
  match s.dropWhile Text.isDecimalDigit with
  | '_' :: c :: rest => if digits.isEmpty then (none, s) else (some digits, c :: rest)
  | _ => (none, s)

/-- Leaves out a number behind the last underscore, unless nothing is left. -/
def bareName (s : List Char) : List Char :=
  let digits := s.reverse.takeWhile Text.isDecimalDigit
  match s.reverse.dropWhile Text.isDecimalDigit with
  | '_' :: c :: rest => if digits.isEmpty then s else (c :: rest).reverse
  | _ => s

/-- The directive that a segment names. -/
def name (s : Segment) : String := String.ofList (bareName (placed s).2)

/-- The place that digits ask for: an ASCII number that fits 32 bits, else none. -/
def placeOf (digits : List Char) : Int :=
  if digits.all Char.isDigit then
    let n : Nat := digits.foldl (fun n c => n * 10 + (c.toNat - 48)) 0
    if n ≤ naturalOrder then n else naturalOrder
  else naturalOrder

def order (s : Segment) : Int :=
  match (placed s).1 with
  | some digits => placeOf digits
  | none => naturalOrder

end Segment

end ProxyFleet.Label
