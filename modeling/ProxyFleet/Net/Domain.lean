import ProxyFleet.Net.Domain.Characters
import ProxyFleet.Net.Domain.Composition
import ProxyFleet.Net.Domain.Direction
import ProxyFleet.Net.Domain.Joining
import ProxyFleet.Net.Punycode

/-!
Domains in ASCII. The labels of a domain may hold letters of any script; each character is replaced
by what stands for it in domains, letters and marks are composed, and a label that is not ASCII is
encoded. A label that is encoded already has to stand for one that would be encoded like this.
-/

namespace ProxyFleet.Net.Domain

/-- ASCII characters that part a URL or mean nothing, so that no domain can hold them. -/
def isForbidden (c : Char) : Bool :=
  c.toNat ≤ 0x20 || c.toNat = 0x7f || "#%/:<>?@[\\]^|".toList.contains c

def isAscii (cs : List Char) : Bool := cs.all (·.toNat < 0x80)

/-- A text as domains have it. -/
def prepared? (cs : List Char) : Option (List Char) := do
  let cs := normal (← cs.mapM written?).flatten
  if cs.any isForbidden then none else some cs

/-- A label as it is meant and as it is written in ASCII. -/
structure Label where
  meant : List Char
  ascii : List Char
deriving DecidableEq, Repr, Inhabited

def encodedMark : List Char := "xn--".toList

/-- The most characters that are decoded, and that are encoded. -/
def longestEncoded : Nat := 2000
def longestPlain : Nat := 1000

/-- The label for which `code` stands. -/
def decoded? (code : List Char) : Option (List Char) := do
  if longestEncoded < code.length then none
  let codes ← Punycode.decode? code
  let cs := codes.map Char.ofNat
  if codes.all Nat.isValidChar && !isAscii cs && prepared? cs = some cs then some cs else none

/-- A label of a text in which everything is replaced already. -/
def label? (cs : List Char) : Option Label := do
  let meant ← if encodedMark.isPrefixOf cs then decoded? (cs.drop 4) else some cs
  if meant.head?.any isMark || !joinersMatter [] meant then none
  else if isAscii cs then some ⟨meant, cs⟩
  else if longestPlain < cs.length then none
  else some ⟨meant, encodedMark ++ Punycode.encode cs⟩

/-- A domain in lower case and in ASCII. -/
def ascii? (cs : List Char) : Option (List Char) := do
  let labels ← ((← prepared? cs).splitOn '.').mapM label?
  let meant := labels.map Label.meant
  if meant.any (·.any turns) && !meant.all isDirected then none
  else some (['.'].intercalate (labels.map Label.ascii))

end ProxyFleet.Net.Domain
