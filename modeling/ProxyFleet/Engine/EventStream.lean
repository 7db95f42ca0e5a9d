import ProxyFleet.Engine.Codec
import ProxyFleet.Json.Bytes
import ProxyFleet.Net.Exchange

/-!
Streams of events: one JSON document on each line. A body arrives in frames that may end anywhere;
as long as what has arrived has no line break in it, the next frame is waited for. Blank lines are
passed over, and a line that holds no event does not end the stream. A body that breaks off fails
once, behind all of its lines; what follows the last line break is never read.
-/

namespace ProxyFleet.Engine

open Net (ExchangeFault Response)
open Text (Bytes)

def newline : UInt8 := 0x0a

/-- The bytes ahead of the first line break and those behind it. -/
def cutLine? : Bytes → Option (Bytes × Bytes)
  | [] => none
  | b :: rest =>
    if b = newline then some ([], rest)
    else (cutLine? rest).map fun (line, behind) => (b :: line, behind)

theorem cutLine?_length_lt {bytes line behind : Bytes} (h : cutLine? bytes = some (line, behind)) :
    behind.length < bytes.length := by
  induction bytes generalizing line with
  | nil => cases h
  | cons b rest ih =>
    rw [cutLine?] at h
    split at h
    · cases h
      exact Nat.lt_succ_self _
    · obtain ⟨⟨front, _⟩, hcut, he⟩ := Option.map_eq_some_iff.1 h
      cases he
      exact Nat.lt_succ_of_lt (ih hcut)

def isBlankLine (line : Bytes) : Bool := line.all Text.isAsciiBlank

/-- The event on a line. -/
def eventOfLine (line : Bytes) : Except ExchangeFault Event :=
  match (Json.ofBytes? line).bind Event.ofJson? with
  | some event => .ok event
  | none => .error (.undecodable "")

/-- A body of which the events are read one after the other. -/
structure EventStream where
  /-- What has arrived and was not read yet. -/
  pending : Bytes
  /-- What is still to arrive. -/
  frames : List Bytes
  /-- The body breaks off behind its last frame. -/
  breaksOff : Bool

namespace EventStream

def ofResponse (r : Response) : EventStream := ⟨[], r.frames, !r.isComplete⟩

/-- What the next line gives that is not blank, or else the end of the body, and what is left. -/
def next? : EventStream → Option (Except ExchangeFault Event × EventStream)
  | ⟨pending, frames, breaksOff⟩ =>
    match _h : cutLine? pending with
    | some (line, behind) =>
      if isBlankLine line then next? ⟨behind, frames, breaksOff⟩
      else some (eventOfLine line, ⟨behind, frames, breaksOff⟩)
    | none =>
      match frames with
      | frame :: frames => next? ⟨pending ++ frame, frames, breaksOff⟩
      | [] => if breaksOff then some (.error Net.brokenBody, ⟨pending, [], false⟩) else none
termination_by s => (s.frames.length, s.pending.length)
decreasing_by
  · exact Prod.Lex.right _ (cutLine?_length_lt _h)
  · exact Prod.Lex.left _ _ (Nat.lt_succ_self _)

/-- What the stream can still give at most: an item for each byte, and one for breaking off. -/
def size (s : EventStream) : Nat :=
  s.pending.length + s.frames.flatten.length + s.breaksOff.toNat

theorem size_lt_of_next? {s s' : EventStream} {item : Except ExchangeFault Event}
    (h : s.next? = some (item, s')) : s'.size < s.size := by
  fun_induction next? s with
  | case1 pending frames breaksOff line behind hcut hblank ih =>
    have hlt := cutLine?_length_lt hcut
    have hnext := ih h
    simp only [size] at hnext ⊢
    omega
  | case2 pending frames breaksOff line behind hcut hblank =>
    have hlt := cutLine?_length_lt hcut
    cases h
    simp only [size]
    omega
  | case3 pending breaksOff hcut frame frames ih =>
    have hnext := ih h
    simp only [size, List.flatten_cons, List.length_append] at hnext ⊢
    omega
  | case4 pending hcut =>
    cases h
    simp [size]
  | case5 pending breaksOff hcut hb => cases h

/-- All that the stream gives. -/
def items (s : EventStream) : List (Except ExchangeFault Event) :=
  match _h : s.next? with
  | some (item, s') => item :: s'.items
  | none => []
termination_by s.size
decreasing_by exact size_lt_of_next? _h

end EventStream

end ProxyFleet.Engine
