import ProxyFleet.Template.Lexeme

/-!
Reading a template. Text goes to the next opening delimiter; the lexemes of an action are put
together with the parentheses that are open kept on a stack. Every function that is named has to be
defined.
-/

namespace ProxyFleet.Template

/-- A pipeline under construction: the commands before the last pipe, and the operands after it. -/
structure Partial where
  commands : Pipeline := []
  operands : Command := []
deriving Inhabited, Repr

namespace Partial

def add (p : Partial) (o : Operand) : Partial := { p with operands := p.operands ++ [o] }

/-- Follows `path` in the result of the group that was added last. -/
def chain (p : Partial) (path : List String) : Partial :=
  match p.operands.getLast? with
  | some (.group commands _) =>
    { p with operands := p.operands.dropLast ++ [.group commands path] }
  | _ => p

/-- The pipeline, which ends at `offset`. -/
def finish (p : Partial) (offset : Nat) : Except ParseError Pipeline :=
  if p.operands.isEmpty then
    .error ⟨if p.commands.isEmpty then .missingValue else .missingAfterPipe, offset⟩
  else .ok (p.commands ++ [p.operands])

end Partial

/-- Puts the lexemes of an action together. `outer` holds the pipelines whose parentheses are open
around `current`; `chained` says that a parenthesis has just been closed, so that a path of fields
that follows at once belongs to it. -/
def assemble (fs : Functions) (outer : List Partial) (current : Partial) (chained : Bool) :
    Lexemes → Except ParseError Pipeline
  | .broken e => .error e
  | .closed last _ =>
    if outer.isEmpty then current.finish last.stop else .error ⟨.unclosedParen, last.before⟩
  | .next l rest =>
    match l.item with
    | .pipe =>
      if current.operands.isEmpty then .error ⟨.missingBeforePipe, l.before⟩
      else assemble fs outer ⟨current.commands ++ [current.operands], []⟩ false rest
    | .opening => assemble fs (current :: outer) {} false rest
    | .closing =>
      match outer with
      | [] => .error ⟨.unexpectedParen, l.before⟩
      | enclosing :: outer =>
        match current.finish l.stop with
        | .error e => .error e
        | .ok commands => assemble fs outer (enclosing.add (.group commands [])) true rest
    | .field path =>
      if chained && l.before = l.start then
        if path.isEmpty then .error ⟨.chainWithoutField, l.before⟩
        else assemble fs outer (current.chain path) false rest
      else assemble fs outer (current.add (if path.isEmpty then .dot else .field path)) false rest
    | .ident name =>
      if fs.defines name then assemble fs outer (current.add (.function name)) false rest
      else .error ⟨.undefinedFunction name, l.before⟩
    | .literal value => assemble fs outer (current.add (.literal value)) false rest
    | .stop => assemble fs outer current chained rest

/-- The text before the first opening delimiter and what follows the delimiter. -/
def cutAtOpen : List Char → Option (List Char × List Char)
  | [] => none
  | [_] => none
  | c :: d :: rest =>
    if c = '\x7b' && d = '\x7b' then some ([], rest)
    else (cutAtOpen (d :: rest)).map fun (text, after) => (c :: text, after)

theorem length_cutAtOpen {cs text after : List Char} (h : cutAtOpen cs = some (text, after)) :
    text.length + 2 + after.length = cs.length := by
  fun_induction cutAtOpen cs generalizing text with
  | case1 => simp at h
  | case2 => simp at h
  | case3 c d rest hc =>
    simp only [Option.some.injEq, Prod.mk.injEq] at h
    simp only [← h.1, ← h.2, List.length_nil, List.length_cons]
    omega
  | case4 c d rest hc ih =>
    simp only [Option.map_eq_some_iff] at h
    obtain ⟨⟨t, a⟩, ht, he⟩ := h
    simp only [Prod.mk.injEq] at he
    obtain ⟨rfl, rfl⟩ := he
    have := ih ht
    simp only [List.length_cons] at this ⊢
    omega

/-- How many characters a comment takes, from the white space before it on; nothing if there is no
comment, and an error if it is not closed. -/
def commentLength (c : Cursor) : Option (Except ParseError Nat) :=
  let blanks := (c.rest.takeWhile Text.isBlank).length
  match c.rest.dropWhile Text.isBlank with
  | '/' :: '*' :: rest =>
    some (go (blanks + 1) ('*' :: rest) (c.offset + byteSize (c.rest.take blanks)))
  | _ => none
where
  /-- Looks for the end of the comment, which starts at `start`. -/
  go (taken : Nat) (cs : List Char) (start : Nat) : Except ParseError Nat :=
    match cs with
    | '*' :: '/' :: _ => .ok (taken + 2)
    | _ :: rest => go (taken + 1) rest start
    | [] => .error ⟨.unclosedComment, start⟩

/-- An action from behind its opening delimiter: its pipeline, which a comment does not have, and
what follows it. -/
def action (fs : Functions) (c : Cursor) : Except ParseError (Option Pipeline × Cursor) :=
  match commentLength c with
  | some (.error e) => .error e
  | some (.ok n) =>
    match Lexemes.read (c.advance n) with
    | .closed _ after => .ok (none, after)
    | .broken e => .error e
    | .next l _ => .error ⟨.commentTail, l.stop⟩
  | none =>
    match assemble fs [] {} false (Lexemes.read c) with
    | .error e => .error e
    | .ok pipeline => .ok (some pipeline, (Lexemes.read c).after)

theorem length_action_le {fs : Functions} {c after : Cursor} {p : Option Pipeline}
    (h : action fs c = .ok (p, after)) : after.rest.length ≤ c.rest.length := by
  simp only [action] at h
  split at h
  · cases h
  · rename_i n _
    split at h
    · rename_i last rest heq
      simp only [Except.ok.injEq, Prod.mk.injEq] at h
      have := Lexemes.length_after_read_le (c.advance n)
      rw [heq] at this
      simp only [Lexemes.after, h.2] at this
      exact Nat.le_trans this (c.length_advance_le n)
    · cases h
    · cases h
  · split at h
    · cases h
    · simp only [Except.ok.injEq, Prod.mk.injEq] at h
      rw [← h.2]
      exact Lexemes.length_after_read_le c

/-- A left trim marker stands behind the opening delimiter and before white space. -/
def trimsLeft : List Char → Bool
  | '-' :: c :: _ => Text.isBlank c
  | _ => false

def textNode (text : List Char) : List Node :=
  if text.isEmpty then [] else [.text (String.ofList text)]

/-- The nodes of what is left of a template. -/
def nodes (fs : Functions) (c : Cursor) : Except ParseError (List Node) :=
  match _hc : cutAtOpen c.rest with
  | none => .ok (textNode c.rest)
  | some (text, _) =>
    let opened := c.advance (text.length + 2)
    let trims := trimsLeft opened.rest
    let before := textNode (if trims then Text.trimEnd text else text)
    match _h : action fs (if trims then opened.advance 1 else opened) with
    | .error e => .error e
    | .ok (pipeline, after) =>
      match nodes fs after with
      | .error e => .error e
      | .ok rest => .ok (before ++ (pipeline.map Node.action).toList ++ rest)
termination_by c.rest.length
decreasing_by
  have h1 := length_action_le _h
  have h2 := length_cutAtOpen _hc
  have h3 : opened.rest.length < c.rest.length := by
    simp only [opened, Cursor.advance, List.length_drop]
    omega
  split at h1
  · exact Nat.lt_of_le_of_lt (Nat.le_trans h1 (opened.length_advance_le 1)) h3
  · exact Nat.lt_of_le_of_lt h1 h3

/-- Reads a template that may call the functions `fs`. -/
def parse (fs : Functions) (text : String) : Except ParseError (List Node) :=
  nodes fs ⟨text.toList, 0⟩

end ProxyFleet.Template
