import ProxyFleet.Engine.Client

/-!
Events are read line by line, however the body arrives. What a stream is still going to give follows
from the bytes it has not read yet, those that wait in it and those of the frames to come, without
regard to where one frame ends and the next begins.
-/

namespace ProxyFleet.Engine

open Net (ExchangeFault Response)
open Text (Bytes)

/-- The lines of a body, without the line breaks that end them; what no line break ends is none. -/
def linesOf (body : Bytes) : List Bytes := (body.splitOn newline).dropLast

def writtenLines (body : Bytes) : List Bytes := (linesOf body).filter fun line => !isBlankLine line

theorem linesOf_of_not_mem {bytes : Bytes} (h : newline ∉ bytes) : linesOf bytes = [] := by
  rw [linesOf, List.splitOn_eq_singleton h]
  rfl

theorem linesOf_append {line : Bytes} (h : newline ∉ line) (behind : Bytes) :
    linesOf (line ++ newline :: behind) = line :: linesOf behind := by
  rw [linesOf, List.splitOn_append_cons_self_of_not_mem h,
    List.dropLast_cons_of_ne_nil (List.splitOn_ne_nil _ _)]
  rfl

theorem writtenLines_of_not_mem {bytes : Bytes} (h : newline ∉ bytes) : writtenLines bytes = [] := by
  rw [writtenLines, linesOf_of_not_mem h]
  rfl

theorem writtenLines_append {line : Bytes} (h : newline ∉ line) (behind : Bytes) :
    writtenLines (line ++ newline :: behind) =
      if isBlankLine line then writtenLines behind else line :: writtenLines behind := by
  rw [writtenLines, linesOf_append h, List.filter_cons]
  cases isBlankLine line <;> rfl

theorem cutLine?_eq_none {bytes : Bytes} (h : cutLine? bytes = none) : newline ∉ bytes := by
  induction bytes with
  | nil => exact List.not_mem_nil
  | cons b rest ih =>
    rw [cutLine?] at h
    split at h
    · cases h
    · next hb =>
      rw [List.mem_cons, not_or]
      exact ⟨fun he => hb he.symm, ih (Option.map_eq_none_iff.1 h)⟩

theorem cutLine?_eq_some {bytes line behind : Bytes} (h : cutLine? bytes = some (line, behind)) :
    bytes = line ++ newline :: behind ∧ newline ∉ line := by
  induction bytes generalizing line with
  | nil => cases h
  | cons b rest ih =>
    rw [cutLine?] at h
    split at h
    · next hb =>
      cases h
      exact ⟨by rw [hb]; rfl, List.not_mem_nil⟩
    · next hb =>
      obtain ⟨⟨front, _⟩, hcut, he⟩ := Option.map_eq_some_iff.1 h
      cases he
      obtain ⟨hrest, hfront⟩ := ih hcut
      refine ⟨by rw [hrest]; rfl, ?_⟩
      rw [List.mem_cons, not_or]
      exact ⟨fun he => hb he.symm, hfront⟩

/-- A line gives an event exactly if it holds the document of one. -/
theorem eventOfLine_eq_ok_iff {line : Bytes} {event : Event} :
    eventOfLine line = .ok event ↔ (Json.ofBytes? line).bind Event.ofJson? = some event := by
  unfold eventOfLine
  cases (Json.ofBytes? line).bind Event.ofJson? with
  | some e => rw [Except.ok.injEq, Option.some.injEq]
  | none => simp

theorem eventOfLine_eq_error_iff {line : Bytes} {fault : ExchangeFault} :
    eventOfLine line = .error fault ↔
      (Json.ofBytes? line).bind Event.ofJson? = none ∧ fault = .undecodable "" := by
  unfold eventOfLine
  cases (Json.ofBytes? line).bind Event.ofJson? with
  | some e => simp
  | none => rw [Except.error.injEq, eq_comm, eq_self, true_and]

namespace EventStream

def unread (s : EventStream) : Bytes := s.pending ++ s.frames.flatten

/-- What is still to be given: an item for each line of the unread bytes that is not blank, and at
the end a failure if the body breaks off. -/
def due (s : EventStream) : List (Except ExchangeFault Event) :=
  (writtenLines s.unread).map eventOfLine ++ if s.breaksOff then [.error Net.brokenBody] else []

/-- A line that waits is the first of all unread bytes, whatever the frames to come are. -/
theorem due_of_cutLine? {pending line behind : Bytes} (h : cutLine? pending = some (line, behind))
    (frames : List Bytes) (breaksOff : Bool) :
    due ⟨pending, frames, breaksOff⟩ =
      if isBlankLine line then due ⟨behind, frames, breaksOff⟩
      else eventOfLine line :: due ⟨behind, frames, breaksOff⟩ := by
  obtain ⟨rfl, hline⟩ := cutLine?_eq_some h
  simp only [due, unread, List.append_assoc, List.cons_append]
  rw [writtenLines_append hline]
  split <;> rfl

/-- The next frame joins what waits. -/
theorem due_frame (pending frame : Bytes) (frames : List Bytes) (breaksOff : Bool) :
    due ⟨pending, frame :: frames, breaksOff⟩ = due ⟨pending ++ frame, frames, breaksOff⟩ := by
  simp only [due, unread, List.flatten_cons, List.append_assoc]

/-- What has no line break any more is not read. -/
theorem due_of_not_mem {pending : Bytes} (h : newline ∉ pending) (breaksOff : Bool) :
    due ⟨pending, [], breaksOff⟩ = if breaksOff then [.error Net.brokenBody] else [] := by
  simp only [due, unread, List.flatten_nil, List.append_nil]
  rw [writtenLines_of_not_mem h]
  rfl

/-- One item of the stream is the first of what is due, and leaves the others. -/
theorem due_eq_next? (s : EventStream) :
    s.due = match s.next? with
      | some (item, s') => item :: s'.due
      | none => [] := by
  fun_induction next? s with
  | case1 pending frames breaksOff line behind hcut hblank ih =>
    rw [due_of_cutLine? hcut, if_pos hblank]
    exact ih
  | case2 pending frames breaksOff line behind hcut hblank =>
    rw [due_of_cutLine? hcut, if_neg hblank]
  | case3 pending breaksOff hcut frame frames ih =>
    rw [due_frame]
    exact ih
  | case4 pending hcut =>
    have hnot := cutLine?_eq_none hcut
    rw [due_of_not_mem hnot]
    simp only [due_of_not_mem hnot]
    rfl
  | case5 pending breaksOff hcut hb =>
    rw [due_of_not_mem (cutLine?_eq_none hcut), if_neg hb]

/-- The stream gives all that is due and no more. -/
theorem items_eq_due (s : EventStream) : s.items = s.due := by
  fun_induction items s with
  | case1 s item s' hnext ih =>
    rw [due_eq_next? s, hnext, ih]
  | case2 s hnext =>
    rw [due_eq_next? s, hnext]

end EventStream

theorem items_eq (r : Response) :
    Client.items r = (writtenLines r.body).map eventOfLine ++
      if r.isComplete then [] else [.error Net.brokenBody] := by
  rw [Client.items, EventStream.items_eq_due]
  unfold EventStream.due EventStream.unread EventStream.ofResponse Response.body
  cases r.isComplete <;> rfl

/-- The events of a response depend on its body alone and not on the frames in which it arrives. Each
line that is not blank gives one result, whatever the others are: the event that it holds, or a fault
if it holds none. What no line break ends gives nothing, and a body that breaks off fails behind all
its lines. -/
theorem items_of_body (r : Response) :
    (Client.items r = ((r.body.splitOn newline).dropLast.filter fun line =>
        !isBlankLine line).map eventOfLine ++
      if r.isComplete then [] else [.error Net.brokenBody]) ∧
    (∀ (line : Bytes) (event : Event), eventOfLine line = .ok event ↔
      (Json.ofBytes? line).bind Event.ofJson? = some event) ∧
    (∀ (line : Bytes) (fault : ExchangeFault), eventOfLine line = .error fault ↔
      (Json.ofBytes? line).bind Event.ofJson? = none ∧ fault = .undecodable "") ∧
    ∀ r' : Response, r'.body = r.body → r'.isComplete = r.isComplete →
      Client.items r' = Client.items r := by
  refine ⟨items_eq r, fun _ _ => eventOfLine_eq_ok_iff, fun _ _ => eventOfLine_eq_error_iff, ?_⟩
  intro r' hbody hcomplete
  rw [items_eq, items_eq, hbody, hcomplete]

/-- An event, a blank line, a line that holds none and the beginning of another event. -/
def mixedBody : Bytes := Text.utf8 "\x7b\"Type\":\"é\"\x7d\r\n \nnone\n\x7b"

def wholeResponse : Response := ⟨200, [mixedBody], false⟩

/-- The same, cut within a character and within a line break, with an empty frame between. -/
def cutResponse : Response :=
  ⟨200, [mixedBody.take 10, [], (mixedBody.drop 10).take 4, mixedBody.drop 14], false⟩

theorem items_of_body_cut : cutResponse.body = wholeResponse.body ∧
    cutResponse.isComplete = wholeResponse.isComplete ∧
    Client.items cutResponse = Client.items wholeResponse ∧
    Client.items wholeResponse =
      [.ok { kind := "é" }, .error (.undecodable ""), .error Net.brokenBody] := by
  have hbody : cutResponse.body = wholeResponse.body := by decide +kernel
  have hlines : ((wholeResponse.body.splitOn newline).dropLast.filter fun line =>
      !isBlankLine line) = [Text.utf8 "\x7b\"Type\":\"é\"\x7d\r", Text.utf8 "none"] := by
    decide +kernel
  obtain ⟨hitems, hok, herror, hframes⟩ := items_of_body wholeResponse
  have hevent := (hok (Text.utf8 "\x7b\"Type\":\"é\"\x7d\r") { kind := "é" }).2 (by decide +kernel)
  have hnone := (herror (Text.utf8 "none") (.undecodable "")).2 (by decide +kernel)
  refine ⟨hbody, rfl, hframes cutResponse hbody rfl, ?_⟩
  rw [hitems, hlines, List.map_cons, List.map_cons, hevent, hnone]
  rfl

end ProxyFleet.Engine
