import ProxyFleet.Proofs.Template.Lexing

/-!
Reading by positions gives what reading by what is left gives. So it comes to an end, makes every
cut it attempts, and stops at no fault that is not in the template; the offset that a fault is
reported at is one at which the template can be cut.
-/

namespace ProxyFleet.Template

/-! Pipelines. -/

section Reads

variable {α β γ : Type} {src : List Char} {c : Cursor} {run : Run (α × Nat)}
  {whole : Except ParseError γ} {more : α → Cursor → Except ParseError γ}

/-- A reading by positions from where `c` stands, against what `whole` gives: both fail alike, at an
offset where the text can be cut, or the reading leads to a later cursor, from which `more` gives
what `whole` does. -/
def Reads (src : List Char) (c : Cursor) (run : Run (α × Nat)) (whole : Except ParseError γ)
    (more : α → Cursor → Except ParseError γ) : Prop :=
  (∃ e, run = throw (.fault e) ∧ whole = .error e ∧ (cut? src e.offset).isSome = true) ∨
    ∃ a after, run = pure (a, after.offset) ∧ whole = more a after ∧ after.In src ∧
      after.rest.length ≤ c.rest.length

namespace Reads

theorem fault (fault : ParseFault) {offset : Nat} (h : (cut? src offset).isSome = true) :
    Reads src c (Run.fail fault offset : Run (α × Nat)) (.error ⟨fault, offset⟩) more :=
  Or.inl ⟨_, rfl, rfl, h⟩

theorem of_le {c' : Cursor} (h : Reads src c' run whole more)
    (hle : c'.rest.length ≤ c.rest.length) : Reads src c run whole more := by
  obtain hfails | ⟨a, after, hrun, hwhole, hafter, hle'⟩ := h
  · exact Or.inl hfails
  · exact Or.inr ⟨a, after, hrun, hwhole, hafter, Nat.le_trans hle' hle⟩

theorem bind {f : α × Nat → Run (β × Nat)} {last : β → Cursor → Except ParseError γ}
    (h : Reads src c run whole more)
    (hf : ∀ a after, after.In src → after.rest.length ≤ c.rest.length →
      Reads src after (f (a, after.offset)) (more a after) last) :
    Reads src c (run >>= f) whole last := by
  obtain ⟨e, rfl, hwhole, hcut⟩ | ⟨a, after, rfl, rfl, hafter, hle⟩ := h
  · exact Or.inl ⟨e, rfl, hwhole, hcut⟩
  · exact (hf a after hafter hle).of_le hle

end Reads

end Reads

section Pipelines

variable (fs : Functions) {src : List Char} {c : Cursor}

def Lexemes.assembled (outer : List Partial) (current : Partial) (chained : Bool) (ls : Lexemes) :
    Except ParseError (Pipeline × Cursor) :=
  match assemble fs outer current chained ls with
  | .ok pipeline => .ok (pipeline, ls.after)
  | .error e => .error e

/-- What is to be done at `c`, behind a pipeline: it is the whole action, or a group in the
enclosing pipeline. -/
def resume : List Partial → Pipeline → Cursor → Except ParseError (Pipeline × Cursor)
  | [], pipeline, c => .ok (pipeline, c)
  | enclosing :: outer, pipeline, c =>
    (Lexemes.read c).assembled fs outer (enclosing.add (.group pipeline [])) true

theorem Partial.chain_add (p : Partial) (sub : Pipeline) (path : List String) :
    (p.add (.group sub [])).chain path = p.add (.group sub path) := by
  simp [chain, add]

/-- Without a point at once there is no path to follow. -/
theorem assembled_read_of_ne (hpoint : c.rest.head? ≠ some '.') (outer : List Partial)
    (current : Partial) :
    (Lexemes.read c).assembled fs outer current true =
      (Lexemes.read c).assembled fs outer current false := by
  cases hscan : scan c with
  | error e =>
    rw [Lexemes.read_of_error hscan]
    rfl
  | ok p =>
    obtain ⟨l, after⟩ := p
    rw [Lexemes.read_of_ok hscan]
    cases hitem : l.item with
    | field path =>
      have hapart : l.before ≠ l.start := fun h => hpoint (head?_of_field hscan hitem h)
      simp [Lexemes.assembled, Lexemes.isStop, assemble, hitem, hapart]
    | _ => simp [Lexemes.assembled, Lexemes.isStop, assemble, hitem]

theorem reads_chainAt (hc : c.In src) {limit : Nat} (hlimit : c.rest.length ≤ limit)
    (outer : List Partial) (enclosing : Partial) (sub : Pipeline) :
    Reads src c (chainAt src limit c.offset)
      ((Lexemes.read c).assembled fs outer (enclosing.add (.group sub [])) true)
      fun path after =>
        (Lexemes.read after).assembled fs outer (enclosing.add (.group sub path)) false := by
  rw [chainAt, hc.sliceFrom, pure_bind]
  by_cases hpoint : c.rest.head? = some '.'
  · obtain ⟨path, after, hscan⟩ := scan_of_point hpoint
    rw [if_pos hpoint, lexemeAt_eq hc hlimit, hscan, Lexemes.read_of_ok hscan]
    simp only [pure_bind, Lexemes.isStop, Bool.false_eq_true, if_false, Lexemes.assembled, assemble,
      decide_true, Bool.and_self, if_true, Partial.chain_add]
    split
    · exact Reads.fault _ hc.isSome_cut?
    · exact Or.inr ⟨path, after, rfl, rfl, hc.scan hscan, Nat.le_of_lt (scan_length_lt hscan)⟩
  · rw [if_neg hpoint, assembled_read_of_ne fs hpoint]
    exact Or.inr ⟨[], c, rfl, rfl, hc, Nat.le_refl _⟩

theorem reads_finish (current : Partial) {after : Cursor} (hafter : after.In src)
    (hle : after.rest.length ≤ c.rest.length)
    (more : Pipeline → Cursor → Except ParseError (Pipeline × Cursor)) :
    Reads src c
      (do
        let pipeline ← Run.ofExcept (current.finish after.offset)
        pure (pipeline, after.offset))
      (match current.finish after.offset with
        | .ok pipeline => more pipeline after
        | .error e => .error e) more := by
  unfold Partial.finish
  split
  · exact Reads.fault _ hafter.isSome_cut?
  · exact Or.inr ⟨_, after, rfl, rfl, hafter, hle⟩

/-- A pipeline is read by positions as its lexemes are put together. The pipelines that are open
around it are on the stack of the one and wait for the result of the other, which `resume` hands
them. -/
theorem reads_pipelineAt {limit : Nat} {c : Cursor} (hc : c.In src) (hlimit : c.rest.length < limit)
    (outer : List Partial) (current : Partial) :
    Reads src c (pipelineAt fs src limit (!outer.isEmpty) current c.offset)
      ((Lexemes.read c).assembled fs outer current false) (resume fs outer) := by
  induction limit generalizing c outer current with
  | zero => exact absurd hlimit (Nat.not_lt_zero _)
  | succ limit ih =>
    rw [pipelineAt, lexemeAt_eq hc (Nat.le_of_lt_succ hlimit)]
    cases hscan : scan c with
    | error e =>
      rw [Lexemes.read_of_error hscan]
      exact Or.inl ⟨e, rfl, rfl, isSome_cut?_of_scan_error hc hscan⟩
    | ok p =>
      obtain ⟨l, after⟩ := p
      have hafter := hc.scan hscan
      have hlt := scan_length_lt hscan
      have hle := Nat.le_of_lt hlt
      obtain ⟨hbefore, hstop⟩ := scan_offsets hscan
      have hlater (current : Partial) := (ih hafter (by omega) outer current).of_le hle
      rw [Lexemes.read_of_ok hscan]
      cases hitem : l.item
      all_goals
        simp only [pure_bind, hitem, Lexemes.isStop, Bool.false_eq_true, if_true, if_false,
          Lexemes.assembled, assemble, hbefore, hstop, Bool.false_and]
      case stop =>
        cases outer with
        | nil => exact reads_finish current hafter hle (resume fs [])
        | cons enclosing outer => exact Reads.fault _ hc.isSome_cut?
      case closing =>
        cases outer with
        | nil => exact Reads.fault _ hc.isSome_cut?
        | cons enclosing outer =>
          have hfinish := reads_finish current hafter hle (resume fs (enclosing :: outer))
          cases hgroup : current.finish after.offset <;>
            simp only [hgroup] at hfinish ⊢ <;> exact hfinish
      case pipe =>
        split
        · exact Reads.fault _ hc.isSome_cut?
        · exact hlater _
      case opening =>
        -- The group is read from what is left behind the parenthesis, what follows it from less.
        have hsub := ih hafter (by omega) (current :: outer) {}
        refine (hsub.bind fun sub behind hbehind hle => ?_).of_le hle
        have hrounds : behind.rest.length ≤ limit := by omega
        have hchain := reads_chainAt fs hbehind hrounds outer current sub
        exact hchain.bind fun path last hlast hle => ih hlast (by omega) outer _
      case field path => exact hlater _
      case ident name =>
        split
        · exact hlater _
        · exact Reads.fault _ hc.isSome_cut?
      case literal value => exact hlater _

end Pipelines

/-! Actions. -/

theorem commentLength_of_comment {c : Cursor} {rest : List Char}
    (h : c.skipBlanks.rest = '/' :: '*' :: rest) :
    commentLength c = some (commentLength.go ((c.rest.takeWhile Text.isBlank).length + 1)
      ('*' :: rest) c.skipBlanks.offset) := by
  rw [c.rest_skipBlanks, Text.trimStart] at h
  simp only [commentLength, h]
  rfl

theorem commentLength_of_ne {c : Cursor} (h : ¬['/', '*'].isPrefixOf c.skipBlanks.rest = true) :
    commentLength c = none := by
  rw [c.rest_skipBlanks, Text.trimStart] at h
  unfold commentLength
  split
  · next rest hrest =>
    rw [hrest] at h
    exact absurd rfl h
  · rfl

def Cursor.behindComment (c : Cursor) (front : List Char) : Cursor :=
  c.advance ((c.rest.takeWhile Text.isBlank).length + 1 + front.length + 2)

theorem Cursor.offset_behindComment {c : Cursor} {front behind : List Char}
    (h : c.skipBlanks.rest = '/' :: (front ++ '*' :: '/' :: behind)) :
    (c.behindComment front).offset = c.skipBlanks.offset + ('/'.utf8Size + byteSize front) + 2 := by
  have hlength : (c.rest.takeWhile Text.isBlank).length + 1 + front.length + 2 =
      (c.rest.takeWhile Text.isBlank).length + ('/' :: front ++ ['*', '/']).length := by
    simp only [List.length_append, List.length_cons, List.length_nil]
    omega
  have htake : c.skipBlanks.rest = ('/' :: front ++ ['*', '/']) ++ behind := by
    rw [h]
    simp
  have hclose : byteSize ['*', '/'] = 2 := rfl
  rw [behindComment, hlength, ← advance_advance]
  change c.skipBlanks.offset + byteSize (c.skipBlanks.rest.take _) = _
  rw [htake, List.take_left, byteSize_append, byteSize_cons, hclose, ← Nat.add_assoc]

section Actions

variable (fs : Functions) {src : List Char} {c : Cursor} {limit : Nat}

theorem action_of_plain (hplain : ¬['/', '*'].isPrefixOf c.skipBlanks.rest = true) :
    action fs c =
      match (Lexemes.read c).assembled fs [] {} false with
      | .ok (pipeline, after) => .ok (some pipeline, after)
      | .error e => .error e := by
  simp only [action, commentLength_of_ne hplain, Lexemes.assembled]
  cases assemble fs [] {} false (Lexemes.read c) <;> rfl

theorem reads_actionAt_of_plain (hc : c.In src) (hlimit : c.rest.length < limit)
    (hplain : ¬['/', '*'].isPrefixOf c.skipBlanks.rest = true) :
    Reads src c (actionAt fs src limit c.offset) (action fs c) fun pipeline after =>
      .ok (pipeline, after) := by
  rw [actionAt, hc.sliceFrom, action_of_plain fs hplain]
  simp only [pure_bind, ← c.rest_skipBlanks, if_neg hplain]
  obtain ⟨e, hrun, hwhole, hcut⟩ | ⟨pipeline, after, hrun, hwhole, hafter, hle⟩ :=
    reads_pipelineAt fs hc hlimit [] {}
  · rw [hwhole]
    exact Or.inl ⟨e, congrArg (· >>= _) hrun, rfl, hcut⟩
  · rw [hwhole]
    exact Or.inr ⟨some pipeline, after, congrArg (· >>= _) hrun, rfl, hafter, hle⟩

theorem reads_actionAt_of_comment (hc : c.In src) (hlimit : c.rest.length < limit)
    {rest : List Char} (hcomment : c.skipBlanks.rest = '/' :: '*' :: rest) :
    Reads src c (actionAt fs src limit c.offset) (action fs c) fun pipeline after =>
      .ok (pipeline, after) := by
  have hprefix : ['/', '*'].isPrefixOf ('/' :: '*' :: rest) = true := rfl
  have hfind : findText ['*', '/'] ('/' :: '*' :: rest) =
      (findText ['*', '/'] ('*' :: rest)).map ('/'.utf8Size + ·) := rfl
  rw [actionAt, hc.sliceFrom]
  simp only [pure_bind, ← c.rest_skipBlanks, hcomment, if_pos hprefix, ← c.offset_skipBlanks, hfind,
    action, commentLength_of_comment hcomment]
  obtain ⟨hnone, hgo⟩ | ⟨front, behind, hfront, hsome, hgo⟩ := findText_comment
      ((c.rest.takeWhile Text.isBlank).length + 1) c.skipBlanks.offset ('*' :: rest)
  · rw [hnone, hgo]
    exact Reads.fault _ hc.skipBlanks.isSome_cut?
  · rw [hfront] at hcomment
    have hinner : (c.behindComment front).In src := hc.advance _
    have hle : (c.behindComment front).rest.length ≤ c.rest.length := c.length_advance_le _
    rw [hsome, hgo]
    simp only [Option.map_some]
    rw [← Cursor.offset_behindComment hcomment, lexemeAt_eq hinner (by omega),
      ← Cursor.behindComment]
    cases hscan : scan (c.behindComment front) with
    | error e =>
      rw [Lexemes.read_of_error hscan]
      exact Or.inl ⟨e, rfl, rfl, isSome_cut?_of_scan_error hinner hscan⟩
    | ok p =>
      obtain ⟨l, after⟩ := p
      have hafter := hinner.scan hscan
      have hlt := scan_length_lt hscan
      have hstop := (scan_offsets hscan).2
      rw [Lexemes.read_of_ok hscan]
      simp only [pure_bind]
      cases hlast : Lexemes.isStop l.item with
      | true => exact Or.inr ⟨none, after, rfl, rfl, hafter, Nat.le_trans (Nat.le_of_lt hlt) hle⟩
      | false =>
        simp only [Bool.false_eq_true, if_false, hstop]
        exact Reads.fault _ hafter.isSome_cut?

theorem reads_actionAt (hc : c.In src) (hlimit : c.rest.length < limit) :
    Reads src c (actionAt fs src limit c.offset) (action fs c) fun pipeline after =>
      .ok (pipeline, after) := by
  by_cases hcomment : ['/', '*'].isPrefixOf c.skipBlanks.rest = true
  · obtain ⟨rest, hrest⟩ := List.isPrefixOf_iff_prefix.1 hcomment
    exact reads_actionAt_of_comment fs hc hlimit hrest.symm
  · exact reads_actionAt_of_plain fs hc hlimit hcomment

end Actions

/-! Templates. -/

section Templates

variable (fs : Functions) {src : List Char}

theorem Cursor.In.enter {c : Cursor} (hc : c.In src) (text : List Char) :
    (c.enter text).In src := by
  unfold Cursor.enter
  split
  · exact (hc.advance _).advance 1
  · exact hc.advance _

theorem Cursor.offset_opened {c : Cursor} {text behind : List Char}
    (hcut : cutAtOpen c.rest = some (text, behind)) :
    (c.advance (text.length + 2)).offset = c.offset + (byteSize text + 2) := by
  have hopen : byteSize ['\x7b', '\x7b'] = 2 := rfl
  rw [advance, cutAtOpen_eq_some hcut, List.take_length_add_append, byteSize_append,
    List.take_succ_cons, List.take_succ_cons, List.take_zero, hopen]

theorem Cursor.offset_enter (c : Cursor) (text : List Char) :
    (c.enter text).offset = (c.advance (text.length + 2)).offset +
      if trimsLeft (c.advance (text.length + 2)).rest then 1 else 0 := by
  unfold enter
  generalize c.advance (text.length + 2) = opened
  split
  · next htrims =>
    unfold trimsLeft at htrims
    split at htrims
    · next rest hrest =>
      rw [advance, hrest]
      rfl
    · cases htrims
  · rfl

/-- The nodes from `c` on follow those that have been read. -/
theorem nodesAt_eq {limit : Nat} {c : Cursor} (hc : c.In src) (hlimit : c.rest.length < limit)
    (ns : List Node) :
    (∃ e, nodesAt fs src limit ns c.offset = throw (.fault e) ∧ nodes fs c = .error e ∧
        (cut? src e.offset).isSome = true) ∨
      ∃ more, nodesAt fs src limit ns c.offset = pure (ns ++ more) ∧ nodes fs c = .ok more := by
  induction limit generalizing c ns with
  | zero => exact absurd hlimit (Nat.not_lt_zero _)
  | succ limit ih =>
    rw [nodesAt, hc.sliceFrom]
    simp only [pure_bind, findText_opening]
    cases hopening : cutAtOpen c.rest with
    | none => exact Or.inr ⟨textNode c.rest, rfl, nodes_of_plain hopening⟩
    | some p =>
      obtain ⟨text, behind⟩ := p
      have hlt := Cursor.length_enter_lt hopening
      have hrounds : (c.enter text).rest.length < limit := by omega
      have htext : sliceTo c.rest (byteSize text) = pure text := by
        rw [cutAtOpen_eq_some hopening, sliceTo_append]
      have hbehind := (hc.advance (text.length + 2)).sliceFrom
      have hbefore : (if trimsLeft (c.advance (text.length + 2)).rest then Text.trimEnd text
          else text) = c.textBefore text := rfl
      rw [nodes_of_action hopening]
      simp only [Option.map_some, htext, pure_bind, ← Cursor.offset_opened hopening, hbehind,
        signBefore_blank, hbefore, ← Cursor.offset_enter]
      obtain ⟨e, hrun, hwhole, hcut⟩ | ⟨pipeline, after, hrun, hwhole, hafter, hle⟩ :=
        reads_actionAt fs (hc.enter text) hrounds
      · rw [hrun, hwhole]
        exact Or.inl ⟨e, rfl, rfl, hcut⟩
      · rw [hrun, hwhole]
        simp only [pure_bind]
        obtain ⟨e, hrun, hwhole, hcut⟩ | ⟨more, hrun, hwhole⟩ := ih hafter (by omega)
          (ns ++ textNode (c.textBefore text) ++ (pipeline.map Node.action).toList)
        · rw [hrun, hwhole]
          exact Or.inl ⟨e, rfl, rfl, hcut⟩
        · rw [hrun, hwhole]
          refine Or.inr ⟨_, ?_, rfl⟩
          simp only [List.append_assoc]

/-- Reading a template by positions comes to an end whatever its length, as no limit above that is
reached, and no cut it makes is outside the text or within a character. It gives the nodes of the
template or its error, and the offset of an error is a position in the text that is not within a
character either. -/
theorem parseAt_in_bounds (text : String) (n : Nat) :
    match parse fs text with
    | .ok ns => parseAt fs (text.length + 1 + n) text = .ok ns
    | .error e =>
      parseAt fs (text.length + 1 + n) text = .error (.fault e) ∧
        e.offset ≤ text.utf8ByteSize ∧ (⟨e.offset⟩ : String.Pos.Raw).IsValid text := by
  have hlimit : text.toList.length < text.length + 1 + n := by
    rw [String.length_toList]
    omega
  obtain ⟨e, hrun, hwhole, hcut⟩ | ⟨ns, hrun, hwhole⟩ :=
    nodesAt_eq fs (Cursor.In.start text.toList) hlimit []
  · have hvalid := isSome_cut?_iff.1 hcut
    rw [parse, hwhole]
    exact ⟨hrun, hvalid.le_rawEndPos, hvalid⟩
  · rw [parse, hwhole]
    exact hrun

/-- Offsets count bytes. -/
example :
    (match parse Functions.none "ä\x7b\x7b \"\\q" with
      | .error e => e.offset
      | .ok _ => 0) = 7 := by
  decide +kernel

end Templates

end ProxyFleet.Template
