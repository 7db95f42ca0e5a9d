import ProxyFleet.Caddyfile.Block
import ProxyFleet.Caddyfile.Token
import ProxyFleet.Text.Utf8

/-!
Reading a Caddyfile. Words on one line belong to one block; a word on a new line or after a brace
starts the next block. The blocks are numbered among their siblings, so that writing them again
keeps the order of the source. Reading stops at a brace that closes nothing; what was read up to a
fault is kept.
-/

namespace ProxyFleet.Caddyfile

inductive FaultKind where
  /-- A closing brace without an opening one. -/
  | unexpectedClose
  /-- An opening brace without a closing one. -/
  | unclosedOpen
deriving DecidableEq, Repr, Inhabited

structure Fault where
  kind : FaultKind
  line : Nat
deriving DecidableEq, Repr, Inhabited

def FaultKind.message : FaultKind → String
  | .unexpectedClose => "unexpected '\x7d'"
  | .unclosedOpen => "unclosed '\x7b'"

def Fault.message (f : Fault) : String :=
  f.kind.message ++ " at line " ++ toString f.line

/-- The blocks read, and the fault that ended the reading if there was one. -/
structure Reading where
  blocks : List Block
  fault : Option Fault
deriving DecidableEq, Inhabited

def openBrace : String := "\x7b"
def closeBrace : String := "\x7d"

/-- A tree under construction. Every level holds its blocks with the newest first; the newest block
of each level in `outer` is the one whose children are being read. -/
structure Draft where
  level : List Block
  outer : List (List Block)
  /-- The next word starts a block whatever its line. -/
  fresh : Bool
  /-- The line on which the last word ended. -/
  line : Option Nat
deriving Inhabited

namespace Draft

def start : Draft := ⟨[], [], true, none⟩

/-- Gives the finished level `inner` to the newest block of `level`. -/
def adopt (inner level : List Block) : List Block :=
  match level with
  | [] => []
  | b :: older => { b with children := inner.reverse } :: older

def addKey (key : String) : List Block → List Block
  | [] => []
  | b :: older => b.addKeys [key] :: older

/-- Reads one word; a closing brace needs an open block. -/
def read? (d : Draft) (t : Token) : Option Draft :=
  if t.text = closeBrace then
    match d.outer with
    | [] => none
    | level :: outer => some ⟨adopt d.level level, outer, true, some t.line⟩
  else
    let begins := d.fresh || d.line.any (· ≠ t.line)
    let level := if begins then ⟨[], orderAt d.level.length, []⟩ :: d.level else d.level
    if t.text = openBrace then some ⟨[], level :: d.outer, true, some t.line⟩
    else some ⟨addKey t.text level, d.outer, false, some (t.line + t.text.toList.count '\n')⟩

/-- The tree as far as it was read. -/
def blocks (d : Draft) : List Block :=
  (d.outer.foldl adopt d.level).reverse

def readAll (d : Draft) : List Token → Reading
  | [] =>
    if d.outer.isEmpty then ⟨d.blocks, none⟩
    else ⟨d.blocks, some ⟨.unclosedOpen, d.line.getD 1⟩⟩
  | t :: rest =>
    match d.read? t with
    | some d => d.readAll rest
    | none => ⟨d.blocks, some ⟨.unexpectedClose, t.line⟩⟩

end Draft

def parse (text : String) : Reading := Draft.start.readAll (tokens text)

/-- Reads bytes, which may be no text. -/
def parseBytes (bytes : Text.Bytes) : Reading := parse (Text.lossy bytes)

end ProxyFleet.Caddyfile
