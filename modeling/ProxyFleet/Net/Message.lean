import ProxyFleet.Net.Exchange
import ProxyFleet.Number.Digits

/-!
Requests and responses as they are sent: a first line, headers and a body. A connection serves for
one request, so a body whose length is not told ends with the connection. Before the response there
may be others that only announce it.
-/

namespace ProxyFleet.Net

open Text (Bytes utf8)

def lineBreak : String := "\r\n"

/-- Some lines, a blank line and a body. -/
def messageBytes (lines : List String) (body : Bytes) : Bytes :=
  utf8 (String.join ((lines ++ [""]).map (· ++ lineBreak))) ++ body

def Request.bytes (r : Request) : Bytes :=
  let body := utf8 r.body
  let content := match r.contentType with
    | none => []
    | some type => ["content-type: " ++ type, "content-length: " ++ toString body.length]
  messageBytes
    ([r.method ++ " " ++ r.target ++ " HTTP/1.1", "host: " ++ r.host, "connection: close"] ++
      content) body

/-- A message of which the head has been received, and the body as far as it has been. -/
structure Message where
  start : String
  /-- By names in lower case. -/
  headers : List (String × String)
  body : Bytes
deriving DecidableEq, Repr, Inhabited

namespace Message

/-- What comes before the first blank line, and what follows it. -/
def splitHead? : Bytes → Option (Bytes × Bytes)
  | [] => none
  | b :: rest =>
    if [0x0d, 0x0a, 0x0d, 0x0a].isPrefixOf (b :: rest) then some ([], rest.drop 3)
    else (splitHead? rest).map fun (head, body) => (b :: head, body)

/-- A header; its value is what follows the first colon. -/
def header (line : String) : String × String :=
  let cs := line.toList
  (Text.trim (String.ofList ((cs.takeWhile (· ≠ ':')).map Char.toLower)),
    Text.trim (String.ofList ((cs.dropWhile (· ≠ ':')).drop 1)))

def ofBytes? (bytes : Bytes) : Option Message := do
  let (head, body) ← splitHead? bytes
  match (Text.lossy head).splitOn lineBreak with
  | start :: lines => some ⟨start, lines.map header, body⟩
  | [] => none

/-- The pieces of a body that comes in pieces, each behind a line with its length, and whether the
last piece, which is empty, has come. There are at most `fuel` pieces. -/
def pieces : (fuel : Nat) → Bytes → List Bytes × Bool
  | 0, _ => ([], false)
  | fuel + 1, bytes =>
    let line := (Text.lossy (bytes.takeWhile (· ≠ 0x0a))).toList
    match Number.number? 16 16 UInt64.size line with
    | none => ([], false)
    | some (0, _) => ([], true)
    | some (length, _) =>
      let rest := (bytes.dropWhile (· ≠ 0x0a)).drop 1
      if rest.length < length then ([rest], false)
      else
        let (more, isComplete) := pieces fuel (rest.drop (length + 2))
        (rest.take length :: more, isComplete)

/-- The status in the first line of a response, after the version and a blank. -/
def status (m : Message) : Nat :=
  ((m.start.toList.drop 9).take 3).foldl (fun n c => n * 10 + (c.toNat - '0'.toNat)) 0

/-- The body in the pieces in which it came, and whether it has come to its end. -/
def content (m : Message) (hasEnded : Bool) : List Bytes × Bool :=
  if (m.headers.lookup "transfer-encoding").any (·.toLower.endsWith "chunked") then
    pieces (m.body.length + 1) m.body
  else
    match (m.headers.lookup "content-length").bind String.toNat? with
    | some length => ([m.body.take length], length ≤ m.body.length)
    | none => ([m.body], hasEnded)

def response (m : Message) (hasEnded : Bool) : Response :=
  let (frames, isComplete) := m.content hasEnded
  Response.trimmed ⟨m.status, frames, isComplete⟩

theorem splitHead?_length {bytes head body : Bytes} (h : splitHead? bytes = some (head, body)) :
    body.length < bytes.length := by
  induction bytes generalizing head body with
  | nil => simp [splitHead?] at h
  | cons b rest ih =>
    rw [splitHead?] at h
    split at h
    · obtain ⟨-, rfl⟩ := Prod.mk.inj (Option.some.inj h)
      simp only [List.length_drop, List.length_cons]
      omega
    · obtain ⟨⟨head', body'⟩, hs, he⟩ := Option.map_eq_some_iff.1 h
      obtain ⟨-, rfl⟩ := Prod.mk.inj he
      have := ih hs
      simp only [List.length_cons]
      omega

theorem ofBytes?_length {bytes : Bytes} {m : Message} (h : ofBytes? bytes = some m) :
    m.body.length < bytes.length := by
  unfold ofBytes? at h
  obtain ⟨⟨head, body⟩, hs, h⟩ := Option.bind_eq_some_iff.1 h
  have := splitHead?_length hs
  simp only at h
  split at h
  · obtain rfl := Option.some.inj h
    exact this
  · simp at h

end Message

/-! Responses. -/

namespace Response

/-- Blank lines in front of a response mean nothing. -/
def dropBlankLines : Bytes → Bytes
  | 0x0d :: 0x0a :: rest => dropBlankLines rest
  | 0x0a :: rest => dropBlankLines rest
  | bytes => bytes

theorem dropBlankLines_length_le (bytes : Bytes) :
    (dropBlankLines bytes).length ≤ bytes.length := by
  fun_induction dropBlankLines bytes with
  | case1 rest ih => simp only [List.length_cons]; omega
  | case2 rest ih => simp only [List.length_cons]; omega
  | case3 => exact Nat.le_refl _

/-- How a response begins. -/
def versions : List Bytes := [utf8 "HTTP/1.0 ", utf8 "HTTP/1.1 "]

def isDigit (b : UInt8) : Bool := 0x30 ≤ b && b ≤ 0x39

/-- What may follow a status. -/
def endsStatus (b : UInt8) : Bool := b = 0x20 || b = 0x0d || b = 0x0a

/-- What is wrong at the beginning of a response, as far as it has come. -/
def breakdown? (bytes : Bytes) : Option Breakdown :=
  let status := (bytes.drop 9).take 3
  if !versions.any fun version => (bytes.take 9).isPrefixOf version then some .garbled
  else if !status.all isDigit || !((bytes.drop 12).take 1).all endsStatus then some .noStatus
  else if status.head? = some 0x30 then some .noStatus
  else none

/-- Another response follows one with such a status. -/
def announces (status : Nat) : Bool := 100 ≤ status && status < 200 && status ≠ 101

/-- The response in what has been received on a connection, which may have ended. Nothing while
more of it is needed. -/
def ofBytes? (bytes : Bytes) (hasEnded : Bool) : Option (Except Breakdown Response) :=
  match breakdown? (dropBlankLines bytes) with
  | some breakdown => some (.error breakdown)
  | none =>
    match _h : Message.ofBytes? (dropBlankLines bytes) with
    | none => if hasEnded then some (.error .closed) else none
    | some message =>
      if announces message.status then ofBytes? message.body hasEnded
      else some (.ok (message.response hasEnded))
termination_by bytes.length
decreasing_by
  have := Message.ofBytes?_length _h
  have := dropBlankLines_length_le bytes
  omega

/-- What comes of a response with a status and a body in frames, after which the connection ends.
What follows an announcement is read as a response of its own. -/
def received (status : Nat) (frames : List Bytes) (isComplete : Bool) : Except Breakdown Response :=
  if status < 100 ∨ 999 < status then .error .noStatus
  else if announces status then (ofBytes? frames.flatten true).getD (.error .closed)
  else .ok (trimmed ⟨status, frames, isComplete⟩)

end Response

end ProxyFleet.Net
