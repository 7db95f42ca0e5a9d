import ProxyFleet.Template.Syntax
import ProxyFleet.Text.Blank
import ProxyFleet.Text.Letter

/-!
The lexemes of an action, read up to the delimiter that closes it. Positions are byte offsets into
the template; every lexeme takes at least one character.
-/

namespace ProxyFleet.Template

inductive ParseFault where
  | unclosedAction
  | unclosedComment
  | commentTail
  | unclosedParen
  | unexpectedParen
  | missingBeforePipe
  | missingAfterPipe
  | missingValue
  | undefinedFunction (name : String)
  | chainWithoutField
  | badNumber (text : String)
  | unterminatedQuoted
  | unterminatedRaw
  | unknownEscape (c : Char)
  | unexpectedChar (c : Char)
deriving DecidableEq, Repr, Inhabited

def ParseFault.message : ParseFault → String
  | .unclosedAction => "unclosed action"
  | .unclosedComment => "unclosed comment"
  | .commentTail => "comment ends before closing delimiter"
  | .unclosedParen => "unclosed left paren"
  | .unexpectedParen => "unexpected right paren"
  | .missingBeforePipe => "missing command before '|'"
  | .missingAfterPipe => "missing command after '|'"
  | .missingValue => "missing value for command"
  | .undefinedFunction name => "function " ++ Text.quoted name ++ " not defined"
  | .chainWithoutField => "unexpected '.' after parenthesized pipeline"
  | .badNumber text => "bad number syntax: " ++ Text.quoted text
  | .unterminatedQuoted => "unterminated quoted string"
  | .unterminatedRaw => "unterminated raw quoted string"
  | .unknownEscape c => "unknown escape sequence \\" ++ c.toString
  | .unexpectedChar c => "unexpected " ++ Text.quotedChar c ++ " in action"

/-- Why a template does not parse, and where. -/
structure ParseError where
  fault : ParseFault
  offset : Nat
deriving DecidableEq, Repr, Inhabited

def ParseError.message (e : ParseError) : String :=
  "template: " ++ e.fault.message ++ " at offset " ++ toString e.offset

/-- The bytes that characters take. -/
def byteSize (cs : List Char) : Nat := (String.ofList cs).utf8ByteSize

/-- What is left of a template, and how many bytes came before it. -/
structure Cursor where
  rest : List Char
  offset : Nat
deriving DecidableEq, Repr, Inhabited

namespace Cursor

/-- Goes `n` characters on. -/
def advance (c : Cursor) (n : Nat) : Cursor := ⟨c.rest.drop n, c.offset + byteSize (c.rest.take n)⟩

def skipBlanks (c : Cursor) : Cursor := c.advance (c.rest.takeWhile Text.isBlank).length

theorem length_advance_le (c : Cursor) (n : Nat) : (c.advance n).rest.length ≤ c.rest.length := by
  simp only [advance, List.length_drop]
  omega

end Cursor

inductive Item where
  /-- A path of fields; the empty one is the data itself. -/
  | field (path : List String)
  | ident (name : String)
  | literal (value : Json)
  | pipe
  | opening
  | closing
  /-- The delimiter that closes the action. -/
  | stop
deriving Inhabited, Repr

def isIdentChar (c : Char) : Bool := Text.isLetterOrNumber c || c = '_'

/-! Numbers -/

def isNumberChar (c : Char) : Bool :=
  c.isAlphanum || c = '+' || c = '-' || c = '.' || c = '_'

/-- A sign at the front, and what follows it. -/
def signed (cs : List Char) : Bool × List Char :=
  match cs with
  | '-' :: rest => (true, rest)
  | '+' :: rest => (false, rest)
  | _ => (false, cs)

def digitsValue (cs : List Char) : Nat := cs.foldl (fun n c => n * 10 + (c.toNat - 48)) 0

/-- Digits with an optional sign that fit a signed word. -/
def wholeNumber? (cs : List Char) : Option Int :=
  let (negative, digits) := signed cs
  if digits.isEmpty || !digits.all Char.isDigit then none
  else
    let n := digitsValue digits
    if negative then (if n ≤ 0x8000000000000000 then some (-(n : Int)) else none)
    else if n < 0x8000000000000000 then some n else none

/-- The exponent of a decimal: nothing, or `e`, an optional sign and digits. -/
def decimalExponent? (cs : List Char) : Option Int :=
  match cs with
  | [] => some 0
  | e :: rest =>
    let (negative, digits) := signed rest
    if (e = 'e' || e = 'E') && !digits.isEmpty && digits.all Char.isDigit then
      some (if negative then -(digitsValue digits : Int) else digitsValue digits)
    else none

/-- A decimal with an optional sign, point and exponent that is not beyond every double. -/
def decimal? (cs : List Char) : Option Double :=
  let (negative, body) := signed cs
  let whole := body.takeWhile Char.isDigit
  let (places, tail) :=
    match body.dropWhile Char.isDigit with
    | '.' :: rest => (rest.takeWhile Char.isDigit, rest.dropWhile Char.isDigit)
    | rest => ([], rest)
  if whole.isEmpty && places.isEmpty then none
  else do
    let exponent ← decimalExponent? tail
    let x := Double.ofDecimal negative (digitsValue (whole ++ places)) (exponent - places.length)
    if x.isFinite then some x else none

def number? (cs : List Char) : Option Json :=
  match wholeNumber? cs with
  | some n => some (.int n)
  | none => (decimal? cs).map .double

/-! Single lexemes. Each of these gives an item and how many characters it takes. -/

def escape? : Char → Option Char
  | 'n' => some '\n'
  | 't' => some '\t'
  | 'r' => some '\r'
  | '\\' => some '\\'
  | '"' => some '"'
  | '\'' => some '\''
  | _ => none

/-- The text between double quotes, from behind the opening one, which is at `start`. -/
def quotedBody (start : Nat) : (offset : Nat) → List Char → Except ParseError (List Char × Nat)
  | _, [] => .error ⟨.unterminatedQuoted, start⟩
  | _, ['\\'] => .error ⟨.unterminatedQuoted, start⟩
  | offset, '\\' :: c :: rest =>
    match escape? c with
    | none => .error ⟨.unknownEscape c, offset + 1⟩
    | some d =>
      match quotedBody start (offset + 1 + c.utf8Size) rest with
      | .ok (text, n) => .ok (d :: text, n + 2)
      | .error e => .error e
  | offset, c :: rest =>
    if c = '"' then .ok ([], 1)
    else if c = '\n' then .error ⟨.unterminatedQuoted, start⟩
    else
      match quotedBody start (offset + c.utf8Size) rest with
      | .ok (text, n) => .ok (c :: text, n + 1)
      | .error e => .error e

/-- A path of fields at the front of a text whose first point has been read. `fuel` bounds the
number of fields. -/
def fieldPath : (fuel : Nat) → List Char → List String × Nat
  | 0, _ => ([], 0)
  | fuel + 1, cs =>
    let name := cs.takeWhile isIdentChar
    if name.isEmpty then ([], 0)
    else
      match cs.dropWhile isIdentChar with
      | '.' :: rest =>
        match fieldPath fuel rest with
        | ([], _) => ([String.ofList name], name.length)
        | (path, n) => (String.ofList name :: path, name.length + 1 + n)
      | _ => ([String.ofList name], name.length)

def backtick : Char := '\x60'

def wordItem (name : List Char) : Item :=
  match String.ofList name with
  | "true" => .literal (.bool true)
  | "false" => .literal (.bool false)
  | "nil" => .literal .null
  | name => .ident name

/-- The item that starts with `c` at `offset`, and the number of characters it takes behind `c`.
White space before it is what makes a minus sign a trim marker. -/
def item (spaced : Bool) (offset : Nat) (c : Char) (rest : List Char) :
    Except ParseError (Item × Nat) :=
  if c = '\x7d' && rest.head? = some '\x7d' then .ok (.stop, 1)
  else if c = '-' && spaced && rest.take 2 = ['\x7d', '\x7d'] then
    .ok (.stop, 2 + ((rest.drop 2).takeWhile Text.isBlank).length)
  else if c = '|' then .ok (.pipe, 0)
  else if c = '(' then .ok (.opening, 0)
  else if c = ')' then .ok (.closing, 0)
  else if c = '"' then
    match quotedBody offset (offset + 1) rest with
    | .ok (text, n) => .ok (.literal (.str (String.ofList text)), n)
    | .error e => .error e
  else if c = backtick then
    let text := rest.takeWhile (· ≠ backtick)
    if text.length < rest.length then
      .ok (.literal (.str (String.ofList text)), text.length + 1)
    else .error ⟨.unterminatedRaw, offset⟩
  else if c = '.' then
    let (path, n) := fieldPath rest.length rest
    .ok (.field path, n)
  else if c.isDigit || c = '-' || c = '+' then
    let text := c :: rest.takeWhile isNumberChar
    match number? text with
    | some value => .ok (.literal value, text.length - 1)
    | none => .error ⟨.badNumber (String.ofList text), offset⟩
  else if Text.isLetter c || c = '_' then
    let more := rest.takeWhile isIdentChar
    .ok (wordItem (c :: more), more.length)
  else .error ⟨.unexpectedChar c, offset⟩

/-- An item with the offsets around it: `before` counts the white space in front of it, `start`
does not. -/
structure Lexeme where
  item : Item
  before : Nat
  start : Nat
  stop : Nat
deriving Inhabited, Repr

/-- Reads one lexeme behind white space. -/
def scan (c : Cursor) : Except ParseError (Lexeme × Cursor) :=
  let at_ := c.skipBlanks
  match at_.rest with
  | [] => .error ⟨.unclosedAction, at_.offset⟩
  | ch :: rest =>
    match item (at_.rest.length < c.rest.length) at_.offset ch rest with
    | .error e => .error e
    | .ok (i, n) =>
      let after := at_.advance (n + 1)
      .ok (⟨i, c.offset, at_.offset, after.offset⟩, after)

theorem scan_length_lt {c after : Cursor} {l : Lexeme} (h : scan c = .ok (l, after)) :
    after.rest.length < c.rest.length := by
  simp only [scan] at h
  split at h
  · cases h
  · rename_i ch rest heq
    split at h
    · cases h
    · rename_i i n _
      simp only [Except.ok.injEq, Prod.mk.injEq] at h
      have hle : c.skipBlanks.rest.length ≤ c.rest.length := c.length_advance_le _
      rw [← h.2]
      simp only [Cursor.advance, List.length_drop]
      rw [heq] at hle ⊢
      simp only [List.length_cons] at hle ⊢
      omega

/-- The lexemes of an action, which end with its closing delimiter or with a fault. -/
inductive Lexemes where
  | closed (last : Lexeme) (after : Cursor)
  | broken (error : ParseError)
  | next (lexeme : Lexeme) (rest : Lexemes)
deriving Inhabited, Repr

namespace Lexemes

def isStop : Item → Bool
  | .stop => true
  | _ => false

/-- Reads an action from behind its opening delimiter. -/
def read (c : Cursor) : Lexemes :=
  match _h : scan c with
  | .error e => .broken e
  | .ok (l, after) => if isStop l.item then .closed l after else .next l (read after)
termination_by c.rest.length
decreasing_by exact scan_length_lt _h

/-- What follows the action; nothing does if the action is not closed. -/
def after : Lexemes → Cursor
  | .closed _ after => after
  | .broken e => ⟨[], e.offset⟩
  | .next _ rest => rest.after

theorem length_after_read_le (c : Cursor) : (read c).after.rest.length ≤ c.rest.length := by
  fun_induction read c with
  | case1 => simp [after]
  | case2 c l rest h => simpa [after] using Nat.le_of_lt (scan_length_lt h)
  | case3 c l rest h hs ih => simpa [after] using Nat.le_trans ih (Nat.le_of_lt (scan_length_lt h))

end Lexemes

end ProxyFleet.Template
