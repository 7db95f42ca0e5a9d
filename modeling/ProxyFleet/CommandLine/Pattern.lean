import ProxyFleet.Text.Blank
import ProxyFleet.Text.Letter

/-!
Regular expressions that the value of a field may have to match, and which texts are one. Only what
can stand in a log filter is known: there a closing brace ends the whole field, so a counted
repetition, and whatever else is written with braces, is never complete.
-/

namespace ProxyFleet.CommandLine.Pattern

/-- How what follows is read. -/
structure Flags where
  /-- Blanks and comments mean nothing. -/
  spaced : Bool := false
  /-- Characters of any script are matched, and not bytes. -/
  unicode : Bool := true
deriving DecidableEq, Repr, Inhabited

def dropComment (cs : List Char) : List Char := (cs.dropWhile (· ≠ '\n')).drop 1

theorem dropComment_length_le (cs : List Char) : (dropComment cs).length ≤ cs.length := by
  have := (List.dropWhile_sublist (l := cs) (· ≠ '\n')).length_le
  simp only [dropComment, List.length_drop]
  omega

def dropSpace : List Char → List Char
  | [] => []
  | c :: rest =>
    if Text.isBlank c then dropSpace rest
    else if c = '#' then dropSpace (dropComment rest)
    else c :: rest
termination_by cs => cs.length
decreasing_by
  · simp
  · have := dropComment_length_le rest
    simp only [List.length_cons]
    omega

theorem dropSpace_length_le (cs : List Char) : (dropSpace cs).length ≤ cs.length := by
  fun_induction dropSpace cs with
  | case1 => simp
  | case2 c rest _ ih => simp only [List.length_cons]; omega
  | case3 rest _ ih =>
    have := dropComment_length_le rest
    simp only [List.length_cons]
    omega
  | case4 => simp

def Flags.skip (f : Flags) (cs : List Char) : List Char := if f.spaced then dropSpace cs else cs

theorem Flags.skip_length_le (f : Flags) (cs : List Char) : (f.skip cs).length ≤ cs.length := by
  unfold Flags.skip
  split
  · exact dropSpace_length_le cs
  · exact Nat.le_refl _

/-! What one character or one escape stands for. -/

inductive Atom where
  | literal (c : Char)
  /-- A byte; those above 0x7f are no character of their own. -/
  | byte (n : Nat)
  /-- Digits, blanks or word characters, or all others. -/
  | kind (negated : Bool)
  | category
  | any
  /-- A place between characters. -/
  | place
  | wordEdge
deriving DecidableEq, Repr, Inhabited

/-- What is matched is made of whole characters, so what matches a part of one is refused; and the
edges of words are known for ASCII only. -/
def Atom.isSound (f : Flags) : Atom → Bool
  | .literal _ | .place | .kind false => true
  | .byte n => f.unicode || n < 0x80
  | .kind true | .category | .any => f.unicode
  | .wordEdge => !f.unicode

/-- What may stand in a set of characters. -/
def Atom.isMember (f : Flags) : Atom → Bool
  | .literal c => f.unicode || c.toNat < 0x80
  | .any | .place | .wordEdge => false
  | atom => atom.isSound f

/-- The code of an end of a range. -/
def Atom.code? : Atom → Option Nat
  | .literal c => some c.toNat
  | .byte n => some n
  | _ => none

/-! Escapes. -/

def isPunctuation (c : Char) : Bool :=
  c.toNat < 0x80 && !c.isAlphanum && c ≠ '<' && c ≠ '>'

def hexValue? (c : Char) : Option Nat :=
  if c.isDigit then some (c.toNat - '0'.toNat)
  else if 'a' ≤ c ∧ c ≤ 'f' then some (c.toNat - 'a'.toNat + 10)
  else if 'A' ≤ c ∧ c ≤ 'F' then some (c.toNat - 'A'.toNat + 10)
  else none

def hexDigits? (f : Flags) : Nat → Nat → List Char → Option (Nat × List Char)
  | 0, n, cs => some (n, cs)
  | digits + 1, n, cs =>
    match f.skip cs with
    | c :: rest => do hexDigits? f digits (n * 16 + (← hexValue? c)) rest
    | [] => none

def hexChar? (f : Flags) (digits : Nat) (cs : List Char) : Option (Atom × List Char) := do
  let (n, rest) ← hexDigits? f digits 0 cs
  if n.isValidChar then some (.literal (Char.ofNat n), rest) else none

def controls : List (Char × Char) :=
  [('a', '\x07'), ('f', '\x0c'), ('n', '\n'), ('r', '\r'), ('t', '\t'), ('v', '\x0b')]

/-- The general categories whose name is one letter. -/
def isCategory (c : Char) : Bool := "CLMNPSZ".toList.contains c.toUpper

/-- What stands after a backslash. -/
def escape? (f : Flags) : List Char → Option (Atom × List Char)
  | [] => none
  | 'x' :: rest => (hexDigits? f 2 0 rest).map fun (n, rest) => (.byte n, rest)
  | 'u' :: rest => hexChar? f 4 rest
  | 'U' :: rest => hexChar? f 8 rest
  | c :: rest =>
    if c = 'p' ∨ c = 'P' then
      match f.skip rest with
      | name :: rest => if isCategory name then some (.category, rest) else none
      | [] => none
    else if "dsw".toList.contains c then some (.kind false, rest)
    else if "DSW".toList.contains c then some (.kind true, rest)
    else if "Az".toList.contains c then some (.place, rest)
    else if "bB<>".toList.contains c then some (.wordEdge, rest)
    else if isPunctuation c then some (.literal c, rest)
    else (controls.lookup c).map fun c => (.literal c, rest)

/-! Sets of characters. -/

def atom? (f : Flags) : List Char → Option (Atom × List Char)
  | [] => none
  | '\\' :: rest => escape? f rest
  | c :: rest => some (.literal c, rest)

/-- A member of a set, or a range between two. -/
def members? (f : Flags) (cs : List Char) : Option (List Char) := do
  let (first, rest) ← atom? f cs
  let rest := f.skip rest
  if ¬ first.isMember f then none
  match rest with
  | '-' :: more =>
    match f.skip more with
    | ']' :: _ | '-' :: _ => some rest
    | more =>
      let (last, rest) ← atom? f more
      if last.isMember f ∧ (← first.code?) ≤ (← last.code?) then some rest else none
  | _ => some rest

def namedSets : List String :=
  ["alnum", "alpha", "ascii", "blank", "cntrl", "digit", "graph", "lower", "print", "punct",
    "space", "upper", "word", "xdigit"]

/-- A named set such as `[:alpha:]` without its first bracket: whether it is negated, and what
follows. -/
def namedSet? (cs : List Char) : Option (Bool × List Char) :=
  match cs with
  | ':' :: rest =>
    let (negated, rest) := match rest with
      | '^' :: rest => (true, rest)
      | _ => (false, rest)
    match rest.dropWhile (· ≠ ':') with
    | ':' :: ']' :: after =>
      if namedSets.contains (String.ofList (rest.takeWhile (· ≠ ':'))) then some (negated, after)
      else none
    | _ => none
  | _ => none

def dropHyphens (f : Flags) : List Char → List Char
  | '-' :: rest => dropHyphens f (f.skip rest)
  | cs => cs
termination_by cs => cs.length
decreasing_by
  have := f.skip_length_le rest
  simp only [List.length_cons]
  omega

/-- The beginning of a set, where `^` negates and `-` and `]` stand for themselves. The bytes that
are not in a set of bytes are no characters. -/
def opening? (f : Flags) (cs : List Char) : Option (List Char) := do
  let cs := f.skip cs
  let cs ← match cs with
    | '^' :: rest => if f.unicode then some (f.skip rest) else none
    | _ => some cs
  match cs with
  | ']' :: rest => some rest
  | _ => some (dropHyphens f cs)

/-! Groups. -/

def hasTwice : List Char → Bool
  | [] => false
  | c :: rest => rest.contains c || hasTwice rest

/-- Flags, and a minus before those that are taken away. -/
def areFlags (cs : List Char) : Bool :=
  cs.all ("imsUuRx-".toList.contains ·) && !hasTwice cs && cs.getLast? ≠ some '-'

/-- What is said of a flag, if anything. -/
def flagValue? (cs : List Char) (flag : Char) : Option Bool :=
  if cs.contains flag then some ((cs.takeWhile (· ≠ '-')).contains flag) else none

def Flags.change (f : Flags) (cs : List Char) : Flags where
  spaced := (flagValue? cs 'x').getD f.spaced
  unicode := (flagValue? cs 'u').getD f.unicode

def isName (cs : List Char) : Bool :=
  match cs with
  | [] => false
  | c :: rest =>
    (c = '_' || Text.isLetter c) &&
      rest.all fun c => "_.[]".toList.contains c || Text.isLetterOrNumber c

/-! Reading from the front. -/

/-- Where reading stands. -/
structure Reading where
  flags : Flags := {}
  /-- The flags around each open group, the innermost first. -/
  groups : List Flags := []
  /-- The number of open brackets. -/
  sets : Nat := 0
  /-- There is something before that can be repeated. -/
  repeatable : Bool := false
  names : List (List Char) := []
deriving DecidableEq, Repr, Inhabited

namespace Reading

def enter (s : Reading) (inner : Flags) : Reading :=
  { s with flags := inner, groups := s.flags :: s.groups, repeatable := false }

def named? (s : Reading) (cs : List Char) : Option (Reading × List Char) :=
  let name := cs.takeWhile (· ≠ '>')
  match cs.dropWhile (· ≠ '>') with
  | [] => none
  | _ :: rest =>
    if isName name && !s.names.contains name then
      some ({ s.enter s.flags with names := name :: s.names }, rest)
    else none

def isFlagsEnd (c : Char) : Bool := c = ':' || c = ')'

/-- What stands after the parenthesis that begins a group. -/
def group? (s : Reading) (cs : List Char) : Option (Reading × List Char) :=
  match s.flags.skip cs with
  | '?' :: 'P' :: '<' :: rest => s.named? rest
  | '?' :: '<' :: rest => s.named? rest
  | '?' :: rest =>
    let flags := rest.takeWhile (!isFlagsEnd ·)
    if areFlags flags then
      match rest.dropWhile (!isFlagsEnd ·) with
      | ':' :: rest => some (s.enter (s.flags.change flags), rest)
      | ')' :: rest =>
        if flags.isEmpty then none
        else some ({ s with flags := s.flags.change flags, repeatable := false }, rest)
      | _ => none
    else none
  | rest => some (s.enter s.flags, rest)

def openSet? (s : Reading) (cs : List Char) : Option (Reading × List Char) :=
  (opening? s.flags cs).map fun rest => ({ s with sets := s.sets + 1 }, rest)

/-- Takes what begins with `c` inside of a set. -/
def stepInSet? (s : Reading) (c : Char) (rest : List Char) : Option (Reading × List Char) :=
  match c, rest with
  | '[', _ =>
    match namedSet? rest with
    | some (negated, rest) => if negated && !s.flags.unicode then none else some (s, rest)
    | none => s.openSet? rest
  | ']', _ => some ({ s with sets := s.sets - 1, repeatable := true }, rest)
  | '&', '&' :: rest | '-', '-' :: rest | '~', '~' :: rest => some (s, rest)
  | _, _ => (members? s.flags (c :: rest)).map (s, ·)

def stepOutside? (s : Reading) (c : Char) (rest : List Char) : Option (Reading × List Char) :=
  match c with
  | '(' => s.group? rest
  | ')' =>
    match s.groups with
    | flags :: groups => some ({ s with flags, groups, repeatable := true }, rest)
    | [] => none
  | '|' => some ({ s with repeatable := false }, rest)
  | '[' => s.openSet? rest
  | '?' | '*' | '+' =>
    if s.repeatable then some (s, match rest with | '?' :: rest => rest | _ => rest) else none
  | '{' => none
  | '^' | '$' => some ({ s with repeatable := true }, rest)
  | _ => do
    let (atom, rest) ← if c = '.' then some (.any, rest) else atom? s.flags (c :: rest)
    if atom.isSound s.flags then some ({ s with repeatable := true }, rest) else none

def step? (s : Reading) (c : Char) (rest : List Char) : Option (Reading × List Char) :=
  if s.sets = 0 then s.stepOutside? c rest else s.stepInSet? c rest

/-- Each step takes a character at least, so the length of the text bounds their number. -/
def isComplete : Nat → Reading → List Char → Bool
  | 0, _, _ => false
  | fuel + 1, s, cs =>
    match s.flags.skip cs with
    | [] => s.sets = 0 && s.groups.isEmpty
    | c :: rest =>
      match s.step? c rest with
      | some (s, rest) => isComplete fuel s rest
      | none => false

end Reading

end Pattern

/-- The text is a regular expression. -/
def isPattern (cs : List Char) : Bool := Pattern.Reading.isComplete (cs.length + 1) {} cs

end ProxyFleet.CommandLine
