import ProxyFleet.Number.Digits
import ProxyFleet.Text.Utf8

/-!
Request targets: a path with a query, or a host and port, with or without a scheme in front, or an
asterisk. Nothing is decoded or normalised; a fragment is cut off.
-/

namespace ProxyFleet.Net

structure Uri where
  scheme : Option String := none
  /-- What stands between the slashes behind the scheme and the path; empty if there is none. -/
  authority : List Char := []
  /-- The path and the query. -/
  target : List Char := []
deriving DecidableEq, Repr, Inhabited

inductive UriFault where
  | empty
  | tooLong
  | badCharacter
  | badAuthority
  | badFormat
  | longScheme
deriving DecidableEq, Repr, Inhabited

def UriFault.message : UriFault → String
  | .empty => "empty string"
  | .tooLong => "uri too long"
  | .badCharacter => "invalid uri character"
  | .badAuthority => "invalid authority"
  | .badFormat => "invalid format"
  | .longScheme => "scheme too long"

namespace Uri

def longest : Nat := 65534

def longestScheme : Nat := 64

/-! Paths and queries. -/

/-- Neither a control nor a space. -/
def isVisible (c : Char) : Bool := 0x21 ≤ c.toNat && c.toNat ≠ 0x7f

def isPathChar (c : Char) : Bool := isVisible c && !"#<>?\x60".toList.contains c

def isQueryChar (c : Char) : Bool := isVisible c && !"\"#<>".toList.contains c

/-- The path and the query of a request, without the fragment. -/
def target? (cs : List Char) : Except UriFault (List Char) :=
  let path := cs.takeWhile fun c => c ≠ '?' && c ≠ '#'
  let rest := cs.dropWhile fun c => c ≠ '?' && c ≠ '#'
  let query := match rest with
    | '?' :: _ => rest.takeWhile (· ≠ '#')
    | _ => []
  if path.all isPathChar && (query.drop 1).all isQueryChar then .ok (path ++ query)
  else .error .badCharacter

/-! Authorities. -/

def isUriChar (c : Char) : Bool :=
  c.isAlphanum || "!#$&'()*+,-./:;=?@[]_~".toList.contains c

/-- What has been seen of an authority. -/
structure Seen where
  colons : Nat := 0
  opened : Bool := false
  closed : Bool := false
  percent : Bool := false
  /-- The last character was an at sign. -/
  atEnd : Bool := false

def mostColons : Nat := 8

/-- Goes on by one character. Colons and percent signs in front of an at sign are part of a name or
a password, those in front of a closing bracket part of an address. -/
def Seen.next (s : Seen) (c : Char) : Except UriFault Seen :=
  let s := { s with atEnd := c = '@' }
  if c = ':' then
    if mostColons ≤ s.colons then .error .badAuthority else .ok { s with colons := s.colons + 1 }
  else if c = '[' then
    if s.percent || s.opened then .error .badAuthority else .ok { s with opened := true }
  else if c = ']' then
    if !s.opened || s.closed then .error .badAuthority
    else .ok { s with closed := true, colons := 0, percent := false }
  else if c = '@' then .ok { s with colons := 0, percent := false }
  else if c = '%' then .ok { s with percent := true }
  else if isUriChar c then .ok s
  else .error .badCharacter

def endsAuthority (c : Char) : Bool := c = '/' || c = '?' || c = '#'

/-- The authority in front of a text, and what follows it. -/
def authority? (cs : List Char) : Except UriFault (List Char × List Char) := do
  let text := cs.takeWhile fun c => !endsAuthority c
  let s ← text.foldlM Seen.next {}
  if s.opened ≠ s.closed || 1 < s.colons || s.atEnd || s.percent then .error .badAuthority
  else .ok (text, cs.dropWhile fun c => !endsAuthority c)

/-- The text before the first slash, question mark or number sign can be a host and port, and
nothing follows it. -/
def authorityOnly? (cs : List Char) (otherwise : UriFault) : Except UriFault Uri := do
  let (authority, rest) ← authority? cs
  if rest.isEmpty then .ok { authority } else .error otherwise

/-! Schemes. -/

def isSchemeChar (c : Char) : Bool :=
  c.isAlphanum || c = '+' || c = '-' || c = '.' || c = '~'

/-- The scheme in front of a colon and two slashes, and what follows these. The two schemes of the
web may be written in either case. -/
def scheme? (cs : List Char) : Except UriFault (Option String × List Char) :=
  let name := cs.takeWhile isSchemeChar
  match cs.dropWhile isSchemeChar with
  | ':' :: '/' :: '/' :: rest =>
    let lower := String.ofList (name.map Char.toLower)
    if lower = "http" || lower = "https" then .ok (some lower, rest)
    else if longestScheme < name.length then .error .longScheme
    else .ok (if 3 < cs.length then (some (String.ofList name), rest) else (none, cs))
  | _ => .ok (none, cs)

def ofText (cs : List Char) : Except UriFault Uri := do
  let (scheme, rest) ← scheme? cs
  if scheme.isNone then authorityOnly? rest .badFormat
  else
    let (authority, rest) ← authority? rest
    if authority.isEmpty then .error .badFormat
    else .ok ⟨scheme, authority, ← target? rest⟩

def parse (text : String) : Except UriFault Uri :=
  if longest < text.utf8ByteSize then .error .tooLong
  else
    match text.toList with
    | [] => .error .empty
    | ['*'] => .ok { target := ['*'] }
    | ['/'] => .ok { target := ['/'] }
    | [c] => authorityOnly? [c] .badCharacter
    | '/' :: rest => (target? ('/' :: rest)).map fun target => { target }
    | cs => ofText cs

/-! Parts. -/

/-- The path. It is a slash where a scheme and a host are followed by none. -/
def path (u : Uri) : List Char :=
  let path := u.target.takeWhile (· ≠ '?')
  if path.isEmpty && (u.scheme.isSome || !u.target.isEmpty) then ['/'] else path

/-- The host and port, without a name and a password in front. -/
def place (u : Uri) : List Char := (u.authority.reverse.takeWhile (· ≠ '@')).reverse

/-- The host, with brackets around a version 6 address. -/
def host? (u : Uri) : Option (List Char) :=
  if u.authority.isEmpty then none
  else
    match u.place with
    | '[' :: rest => some ('[' :: rest.takeWhile (· ≠ ']') ++ [']'])
    | cs => some (cs.takeWhile (· ≠ ':'))

/-- The port behind the last colon, which may have a plus sign in front. -/
def port? (u : Uri) : Option Nat :=
  if u.authority.contains ':' then
    let text := (u.authority.reverse.takeWhile (· ≠ ':')).reverse
    let digits := match text with
      | '+' :: rest => rest
      | _ => text
    let n := Number.digitsValue 10 digits
    if digits.isEmpty || !digits.all Char.isDigit || 65535 < n then none else some n
  else none

end Uri

end ProxyFleet.Net
