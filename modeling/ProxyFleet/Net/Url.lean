import ProxyFleet.Net.Host

/-!
URLs: a scheme, then behind two slashes a host and a port, then a path. The port that a scheme
implies is left out. In a path the segments `.` and `..` are resolved and some characters are
percent-encoded. The schemes of the web need a host, and for them a backslash is a slash.
-/

namespace ProxyFleet.Net

structure Url where
  /-- In lower case. -/
  scheme : String
  /-- Empty if there is none. -/
  host : String
  /-- If it is given and not implied by the scheme. -/
  port : Option Nat
  path : String
deriving DecidableEq, Repr, Inhabited

namespace Url

/-- The ports of the schemes of the web. -/
def webPorts : List (String × Nat) :=
  [("http", 80), ("https", 443), ("ws", 80), ("wss", 443), ("ftp", 21)]

def isWeb (scheme : String) : Bool := (webPorts.lookup scheme).isSome

def isFile (scheme : String) : Bool := scheme = "file"

/-- The text without surrounding blanks and control characters, and without tabs and line breaks. -/
def cleaned (text : String) : List Char :=
  let trimmed := (text.toList.dropWhile (· ≤ ' ')).reverse.dropWhile (· ≤ ' ') |>.reverse
  trimmed.filter fun c => c ≠ '\t' && c ≠ '\n' && c ≠ '\r'

def isSchemeChar (c : Char) : Bool := c.isAlphanum || c = '+' || c = '-' || c = '.'

/-- The scheme in front of a colon, and what follows the colon. -/
def scheme? (cs : List Char) : Option (String × List Char) :=
  let name := cs.takeWhile isSchemeChar
  match name, cs.dropWhile isSchemeChar with
  | c :: _, ':' :: rest =>
    if c.isAlpha then some (String.ofList (name.map Char.toLower), rest) else none
  | _, _ => none

/-- Ends the authority of a URL. -/
def endsAuthority (web : Bool) (c : Char) : Bool :=
  c = '/' || c = '?' || c = '#' || (web && c = '\\')

/-- The authority of a URL, and what follows it. -/
def authority (web : Bool) (cs : List Char) : List Char × List Char :=
  (cs.takeWhile fun c => !endsAuthority web c, cs.dropWhile fun c => !endsAuthority web c)

/-- What stands in front of the last at sign, and what follows it. -/
def userInfo? (cs : List Char) : Option (List Char × List Char) :=
  if cs.contains '@' then
    let host := (cs.reverse.takeWhile (· ≠ '@')).reverse
    some (cs.take (cs.length - host.length - 1), host)
  else none

/-- The host in front of a colon that is not in brackets, and what follows it. -/
def hostPart (inBrackets : Bool) : List Char → List Char × List Char
  | [] => ([], [])
  | c :: rest =>
    if c = ':' && !inBrackets then ([], c :: rest)
    else
      let (host, after) := hostPart (if c = '[' then true else if c = ']' then false else inBrackets)
        rest
      (c :: host, after)

/-- The port behind a colon, which may be left out. -/
def port? (implied : Option Nat) (cs : List Char) : Except UrlFault (Option Nat) :=
  match cs with
  | ':' :: digits =>
    let n := Number.digitsValue 10 (digits.takeWhile Char.isDigit)
    match digits.dropWhile Char.isDigit with
    | [] =>
      if 65535 < n then .error .badPort
      else if digits.isEmpty || some n = implied then .ok none
      else .ok (some n)
    | _ => .error .badPort
  | _ => .ok none

/-! Paths. -/

def isPlainInPath (c : Char) : Bool :=
  c.toNat < 0x80 && !Host.isControl c && !" \"<>`#?{}".toList.contains c

/-- Text in which a dot may be written as an escaped byte. -/
def dots : List Char → Option Nat
  | [] => some 0
  | '.' :: rest => (dots rest).map (· + 1)
  | '%' :: '2' :: 'e' :: rest | '%' :: '2' :: 'E' :: rest => (dots rest).map (· + 1)
  | _ => none

/-- The letter of a drive, which no segment can undo. -/
def isDrive : List Char → Bool
  | [c, d] => c.isAlpha && (d = ':' || d = '|')
  | _ => false

/-- The segments, newest first, without the last one. -/
def stepBack : List (List Char) → List (List Char)
  | [] => []
  | s :: rest => if isDrive s then s :: rest else rest

/-- The segments of a path, newest first, after those in `done`. -/
def resolve (done : List (List Char)) : List (List Char) → List (List Char)
  | [] => done
  | s :: rest =>
    let s := escape isPlainInPath s
    match dots s with
    | some 1 => resolve (if rest.isEmpty then [] :: done else done) rest
    | some 2 => resolve (if rest.isEmpty then [] :: stepBack done else stepBack done) rest
    | _ => resolve (s :: done) rest

/-- The segments of a text. -/
def segments (web : Bool) (cs : List Char) : List (List Char) :=
  cs.splitOnP fun c => c = '/' || (web && c = '\\')

/-- The path that begins behind a slash. -/
def rooted (web : Bool) (cs : List Char) : String :=
  String.ofList ('/' :: ['/'].intercalate (resolve [] (segments web cs)).reverse)

def beforeQuery (cs : List Char) : List Char := cs.takeWhile fun c => c ≠ '?' && c ≠ '#'

/-- The path behind an authority. One of the web is never empty. -/
def pathAfter (web : Bool) (cs : List Char) : String :=
  match beforeQuery cs with
  | [] => if web then "/" else ""
  | c :: rest => if c = '/' || (web && c = '\\') then rooted web rest else rooted web (c :: rest)

/-- A path that has no segments. -/
def opaquePath (cs : List Char) : String :=
  String.ofList (escape (fun c => c.toNat < 0x80 && !Host.isControl c) (beforeQuery cs))

/-! URLs. -/

/-- Names and passwords in front of a host demand that there is one. -/
def namesUser (user : List Char) : Bool := user ≠ [] && user ≠ [':']

def host? (web named : Bool) (host after : List Char) : Except UrlFault String :=
  if host.isEmpty then
    if web || !after.isEmpty || named then .error .emptyHost else .ok ""
  else if web then Host.ofWeb host
  else Host.ofOther host

/-- What follows a scheme and two slashes. -/
def ofAuthority (scheme : String) (cs : List Char) : Except UrlFault Url := do
  let web := isWeb scheme
  let (whole, rest) := authority web cs
  let (user, place) := (userInfo? whole).getD ([], whole)
  if user.isEmpty && whole ≠ place && place.isEmpty && !rest.isEmpty then .error .emptyHost
  let (hostText, after) := hostPart false place
  let host ← host? web (namesUser user) hostText after
  let (digits, tail) := if web then (after, []) else
    (after.takeWhile (· ≠ '\\'), after.dropWhile (· ≠ '\\'))
  let port ← port? (webPorts.lookup scheme) digits
  .ok ⟨scheme, host, port, pathAfter web (tail ++ rest)⟩

def dropSlashes (cs : List Char) : List Char := cs.dropWhile fun c => c = '/' || c = '\\'

/-- The host of a file, which may be missing. -/
def ofFile (cs : List Char) : Except UrlFault Url :=
  match cs with
  | a :: b :: rest =>
    if (a = '/' || a = '\\') && (b = '/' || b = '\\') then
      let (host, path) := authority true rest
      if host.isEmpty || isDrive host then .ok ⟨"file", "", none, pathAfter true rest⟩
      else (Host.ofWeb host).map fun h => ⟨"file", h, none, pathAfter true path⟩
    else .ok ⟨"file", "", none, pathAfter true cs⟩
  | _ => .ok ⟨"file", "", none, pathAfter true cs⟩

def parse (text : String) : Except UrlFault Url :=
  match scheme? (cleaned text) with
  | none => .error .noScheme
  | some (scheme, rest) =>
    if isFile scheme then ofFile rest
    else if isWeb scheme then ofAuthority scheme (dropSlashes rest)
    else
      match rest with
      | '/' :: '/' :: rest => ofAuthority scheme rest
      | '/' :: rest => .ok ⟨scheme, "", none, rooted false (beforeQuery rest)⟩
      | _ => .ok ⟨scheme, "", none, opaquePath rest⟩

end Url

end ProxyFleet.Net
