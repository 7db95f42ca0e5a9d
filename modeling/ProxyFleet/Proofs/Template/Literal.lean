import ProxyFleet.Proofs.Template.Reading
import ProxyFleet.Template.Eval

/-!
Templates of texts and quoted literals in turn. Whatever the texts and the literals hold, such a
template can be read, and filled in it is made of the very same texts and literals, but for the
white space that trim markers take away.
-/

namespace ProxyFleet.Template

/-- A literal in an action of its own, with or without a trim marker on either side. -/
structure Literal where
  text : List Char
  trimsBefore : Bool := false
  trimsAfter : Bool := false

def escaped (c : Char) : List Char :=
  if c = '\\' then ['\\', '\\']
  else if c = '"' then ['\\', '"']
  else if c = '\n' then ['\\', 'n']
  else [c]

def marker (trims : Bool) : List Char := if trims then ['-'] else []

namespace Literal

def closing (l : Literal) : List Char := ' ' :: (marker l.trimsAfter ++ ['\x7d', '\x7d'])

def body (l : Literal) : List Char := ' ' :: '"' :: (l.text.flatMap escaped ++ '"' :: l.closing)

def spelling (l : Literal) : List Char := '\x7b' :: '\x7b' :: (marker l.trimsBefore ++ l.body)

def before (l : Literal) (text : List Char) : List Char :=
  if l.trimsBefore then Text.trimEnd text else text

def after (l : Literal) (text : List Char) : List Char :=
  if l.trimsAfter then Text.trimStart text else text

end Literal

/-- The template of a text and of literals with a text behind each. -/
def spelled (text : List Char) : List (Literal × List Char) → List Char
  | [] => text
  | (l, next) :: rest => text ++ l.spelling ++ spelled next rest

def filled (text : List Char) : List (Literal × List Char) → List Char
  | [] => text
  | (l, next) :: rest => l.before text ++ l.text ++ filled (l.after next) rest

/-! The lexemes of a literal's action. -/

theorem quotedBody_quote (start offset : Nat) (rest : List Char) :
    quotedBody start offset ('"' :: rest) = .ok ([], 1) := by
  simp [quotedBody]

theorem quotedBody_escape {c d : Char} (h : escape? c = some d) (start offset : Nat)
    {rest text : List Char} {n : Nat}
    (hrest : quotedBody start (offset + 1 + c.utf8Size) rest = .ok (text, n)) :
    quotedBody start offset ('\\' :: c :: rest) = .ok (d :: text, n + 2) := by
  simp only [quotedBody, h, hrest]

theorem quotedBody_cons {c : Char} (hb : c ≠ '\\') (hq : c ≠ '"') (hn : c ≠ '\n')
    (start offset : Nat) {rest text : List Char} {n : Nat}
    (hrest : quotedBody start (offset + c.utf8Size) rest = .ok (text, n)) :
    quotedBody start offset (c :: rest) = .ok (c :: text, n + 1) := by
  rw [quotedBody]
  · simp only [hq, hn, if_false, hrest]
  · intro h
    exact absurd h hb
  · intro d more h
    exact absurd h hb

theorem quotedBody_escaped (start offset : Nat) (text rest : List Char) :
    quotedBody start offset (text.flatMap escaped ++ '"' :: rest) =
      .ok (text, (text.flatMap escaped).length + 1) := by
  induction text generalizing offset with
  | nil => exact quotedBody_quote start offset rest
  | cons c text ih =>
    simp only [List.flatMap_cons, List.append_assoc]
    by_cases hb : c = '\\'
    · subst hb
      exact quotedBody_escape rfl start offset (ih _)
    · by_cases hq : c = '"'
      · subst hq
        exact quotedBody_escape rfl start offset (ih _)
      · by_cases hn : c = '\n'
        · subst hn
          exact quotedBody_escape rfl start offset (ih _)
        · simp only [escaped, hb, hq, hn, if_false]
          exact quotedBody_cons hb hq hn start offset (ih _)

/-- Behind a space an item is read that begins with a character that is not blank. -/
theorem exists_scan_space {ch : Char} (hch : Text.isBlank ch = false) {rest : List Char} {i : Item}
    {n : Nat} (hitem : ∀ offset, item true offset ch rest = .ok (i, n)) (offset : Nat) :
    ∃ l stop, scan ⟨' ' :: ch :: rest, offset⟩ = .ok (l, ⟨rest.drop n, stop⟩) ∧ l.item = i := by
  have hskip : Cursor.skipBlanks ⟨' ' :: ch :: rest, offset⟩ =
      ⟨ch :: rest, offset + byteSize [' ']⟩ := by
    simp [Cursor.skipBlanks, Cursor.advance, Text.isBlank_space, hch]
  simp only [scan, hskip, List.length_cons, Nat.lt_succ_self, decide_true, hitem]
  exact ⟨_, _, rfl, rfl⟩

theorem exists_scan_quoted (text rest : List Char) (offset : Nat) :
    ∃ l stop, scan ⟨' ' :: '"' :: (text.flatMap escaped ++ '"' :: rest), offset⟩ =
        .ok (l, ⟨rest, stop⟩) ∧
      l.item = .literal (.str (String.ofList text)) := by
  have hitem (offset : Nat) : item true offset '"' (text.flatMap escaped ++ '"' :: rest) =
      .ok (.literal (.str (String.ofList text)), (text.flatMap escaped).length + 1) := by
    simp [item, quotedBody_escaped]
  obtain ⟨l, stop, hscan, hl⟩ := exists_scan_space (by decide) hitem offset
  refine ⟨l, stop, ?_, hl⟩
  rwa [← List.drop_drop, List.drop_left] at hscan

namespace Literal

theorem exists_scan_closing (l : Literal) (rest : List Char) (offset : Nat) :
    ∃ last stop, scan ⟨l.closing ++ rest, offset⟩ = .ok (last, ⟨l.after rest, stop⟩) ∧
      last.item = .stop := by
  cases htrims : l.trimsAfter with
  | false =>
    have hitem (offset : Nat) : item true offset '\x7d' ('\x7d' :: rest) = .ok (.stop, 1) := by
      simp [item]
    simpa [closing, after, marker, htrims] using exists_scan_space (by decide) hitem offset
  | true =>
    have hitem (offset : Nat) : item true offset '-' ('\x7d' :: '\x7d' :: rest) =
        .ok (.stop, 2 + (rest.takeWhile Text.isBlank).length) := by
      simp [item]
    obtain ⟨last, stop, hscan, hlast⟩ := exists_scan_space (by decide) hitem offset
    rw [← List.drop_drop, List.drop_succ_cons, List.drop_succ_cons, List.drop_zero,
      drop_length_takeWhile] at hscan
    exact ⟨last, stop, by simpa [closing, after, marker, htrims, Text.trimStart] using hscan, hlast⟩

/-- The action of a literal is read as the literal alone, and takes the white space that its trim
marker reaches. -/
theorem exists_action (fs : Functions) (l : Literal) (rest : List Char) (offset : Nat) :
    ∃ stop, action fs ⟨l.body ++ rest, offset⟩ =
      .ok (some [[.literal (.str (String.ofList l.text))]], ⟨l.after rest, stop⟩) := by
  have hbody : l.body ++ rest =
      ' ' :: '"' :: (l.text.flatMap escaped ++ '"' :: (l.closing ++ rest)) := by
    simp [body]
  rw [hbody]
  obtain ⟨first, middle, hfirst, hquoted⟩ :=
    exists_scan_quoted l.text (l.closing ++ rest) offset
  obtain ⟨last, stop, hlast, hstop⟩ := l.exists_scan_closing rest middle
  have hread := Lexemes.read_of_ok hfirst
  rw [Lexemes.read_of_ok hlast] at hread
  simp only [hquoted, hstop, Lexemes.isStop, Bool.false_eq_true, if_true, if_false] at hread
  have hcomment : commentLength
      ⟨' ' :: '"' :: (l.text.flatMap escaped ++ '"' :: (l.closing ++ rest)), offset⟩ = none := by
    simp [commentLength, Text.isBlank]
  refine ⟨stop, ?_⟩
  simp [action, hcomment, hread, assemble, hquoted, Partial.add, Partial.finish, Lexemes.after]

end Literal

/-! A text in front of an action. -/

/-- A text that does not run into an opening delimiter is what stands before it. -/
theorem cutAtOpen_append {text : List Char} (hplain : ¬ ['\x7b', '\x7b'] <:+: text)
    (hend : text.getLast? ≠ some '\x7b') (rest : List Char) :
    cutAtOpen (text ++ '\x7b' :: '\x7b' :: rest) = some (text, rest) := by
  induction text with
  | nil => rfl
  | cons c text ih =>
    cases text with
    | nil =>
      have hc : c ≠ '\x7b' := by simpa using hend
      simp [cutAtOpen, hc]
    | cons d more =>
      rw [List.infix_cons_iff, not_or] at hplain
      have hcut := ih hplain.2 (by rwa [List.getLast?_cons_cons] at hend)
      have hdelimiter : ¬ (c = '\x7b' ∧ d = '\x7b') := by
        rintro ⟨rfl, rfl⟩
        exact hplain.1 (List.prefix_append ['\x7b', '\x7b'] more)
      rw [List.cons_append] at hcut
      simp [cutAtOpen, hdelimiter, hcut]

/-- No text has an opening delimiter in it, and none but the last runs into one. -/
def Apart (text : List Char) : List (Literal × List Char) → Prop
  | [] => ¬ ['\x7b', '\x7b'] <:+: text
  | (_, next) :: rest =>
    ¬ ['\x7b', '\x7b'] <:+: text ∧ text.getLast? ≠ some '\x7b' ∧ Apart next rest

theorem Apart.suffix {text front : List Char} {rest : List (Literal × List Char)}
    (h : Apart text rest) (hsuffix : front <:+ text) : Apart front rest := by
  have hinfix : ['\x7b', '\x7b'] <:+: front → ['\x7b', '\x7b'] <:+: text :=
    fun hfront => hfront.trans hsuffix.isInfix
  cases rest with
  | nil => exact mt hinfix h
  | cons p rest =>
    obtain ⟨hplain, hend, hrest⟩ := h
    refine ⟨mt hinfix hplain, fun hlast => hend ?_, hrest⟩
    obtain ⟨taken, rfl⟩ := hsuffix
    rw [List.getLast?_append, hlast]
    rfl

namespace Literal

theorem after_suffix (l : Literal) (text : List Char) : l.after text <:+ text := by
  unfold after
  split
  · exact List.dropWhile_suffix _
  · exact List.suffix_refl _

/-- A trim marker reaches no further than the next action. -/
theorem after_spelled (l : Literal) (text : List Char) (rest : List (Literal × List Char)) :
    l.after (spelled text rest) = spelled (l.after text) rest := by
  cases rest with
  | nil => rfl
  | cons p rest =>
    unfold after
    split
    · simp only [spelled, spelling, Text.trimStart, List.append_assoc, List.cons_append,
        List.dropWhile_append]
      split
      · next hblank =>
        rw [List.isEmpty_iff.1 hblank]
        rfl
      · rfl
    · rfl

/-- What an action of a literal does to the text in front of it, and where its body begins. -/
theorem enter_spelling (l : Literal) (text rest : List Char) (offset : Nat) :
    (∃ start, Cursor.enter ⟨text ++ l.spelling ++ rest, offset⟩ text = ⟨l.body ++ rest, start⟩) ∧
      Cursor.textBefore ⟨text ++ l.spelling ++ rest, offset⟩ text = l.before text := by
  have hopened : (Cursor.advance ⟨text ++ l.spelling ++ rest, offset⟩ (text.length + 2)).rest =
      marker l.trimsBefore ++ (l.body ++ rest) := by
    simp [Cursor.advance, spelling, ← List.drop_drop]
  unfold Cursor.enter Cursor.textBefore before
  rw [hopened]
  cases htrims : l.trimsBefore with
  | false =>
    rw [htrims] at hopened
    exact ⟨⟨_, congrArg (Cursor.mk · _) hopened⟩, rfl⟩
  | true =>
    rw [htrims] at hopened
    exact ⟨⟨_, congrArg (fun front => Cursor.mk (front.drop 1) _) hopened⟩, rfl⟩

end Literal

/-! What is read, filled in. -/

section Filling

variable (fs : Functions) (data : Json)

theorem execute_append {ns more : List Node} {text rest : String}
    (hns : execute fs data ns = .ok text) (hmore : execute fs data more = .ok rest) :
    execute fs data (ns ++ more) = .ok (text ++ rest) := by
  induction ns generalizing text with
  | nil =>
    cases hns
    rw [List.nil_append, hmore, String.empty_append]
  | cons node ns ih =>
    rw [List.cons_append]
    simp only [execute, bind, Except.bind] at hns ⊢
    cases hnode : evalNode fs data node with
    | error e => simp [hnode] at hns
    | ok first =>
      cases hrest : execute fs data ns with
      | error e => simp [hnode, hrest] at hns
      | ok second =>
        obtain rfl : first ++ second = text := by simpa [hnode, hrest] using hns
        simp only [ih hrest, String.append_assoc]

theorem execute_textNode (text : List Char) :
    execute fs data (textNode text) = .ok (String.ofList text) := by
  unfold textNode
  split
  · next h =>
    rw [List.isEmpty_iff.1 h]
    rfl
  · simp [execute, evalNode, bind, Except.bind]

theorem execute_literal (text : List Char) :
    execute fs data [.action [[.literal (.str (String.ofList text))]]] =
      .ok (String.ofList text) := by
  simp [execute, evalNode, evalPipeline, evalCommand, evalOperand, valueText, bind, Except.bind]

end Filling

/-- Any template of texts and literals can be read, from wherever it stands, and filled in with any
functions and data it is what they make up. -/
theorem exists_nodes_spelled (fs : Functions) {text : List Char} {rest : List (Literal × List Char)}
    (h : Apart text rest) (offset : Nat) :
    ∃ ns, nodes fs ⟨spelled text rest, offset⟩ = .ok ns ∧
      ∀ fs' data, execute fs' data ns = .ok (String.ofList (filled text rest)) := by
  -- The text is general, as trim markers cut the one in front of what is left to read.
  induction rest generalizing text offset with
  | nil =>
    exact ⟨_, nodes_of_plain (cutAtOpen_eq_none_iff.2 h), fun _ _ => execute_textNode _ _ text⟩
  | cons p rest ih =>
    obtain ⟨l, next⟩ := p
    obtain ⟨hplain, hend, hrest⟩ := h
    obtain ⟨⟨start, henter⟩, hbefore⟩ := l.enter_spelling text (spelled next rest) offset
    obtain ⟨stop, haction⟩ := l.exists_action fs (spelled next rest) start
    rw [l.after_spelled] at haction
    obtain ⟨ns, hns, hfilled⟩ := ih (hrest.suffix (l.after_suffix next)) stop
    have hcut : cutAtOpen (spelled text ((l, next) :: rest)) =
        some (text, marker l.trimsBefore ++ l.body ++ spelled next rest) := by
      rw [← cutAtOpen_append hplain hend]
      simp [spelled, Literal.spelling]
    refine ⟨textNode (l.before text) ++ [.action [[.literal (.str (String.ofList l.text))]]] ++ ns,
      ?_, fun fs' data => ?_⟩
    · rw [nodes_of_action hcut]
      simp only [spelled, henter, hbefore, haction, hns, Option.map_some, Option.toList_some]
    · have hfront := execute_append fs' data (execute_textNode fs' data (l.before text))
        (execute_literal fs' data l.text)
      rw [execute_append fs' data hfront (hfilled fs' data), ← String.ofList_append,
        ← String.ofList_append]
      rfl

/-- Texts and literals pass through a template as they are, but for the white space that trim
markers take from the texts beside them. -/
theorem literals_pass_through {text : List Char} {rest : List (Literal × List Char)}
    (h : Apart text rest) (fs : Functions) :
    ∃ ns, parse fs (String.ofList (spelled text rest)) = .ok ns ∧
      ∀ fs' data, execute fs' data ns = .ok (String.ofList (filled text rest)) := by
  rw [parse, String.toList_ofList]
  exact exists_nodes_spelled fs h 0

/-- Delimiters, quotes and trim markers within literals are not taken for the template's own. -/
theorem delimiters_pass_through :
    ∃ ns, parse Functions.none
        "\x7b \x7b\x7b- \"a\x7d\x7d\\n\x7b\x7b-\" \x7d\x7d | \x7b\x7b \"\\\"\\\\ \" -\x7d\x7d\t\n." =
          .ok ns ∧
      execute Functions.none .null ns = .ok "\x7ba\x7d\x7d\n\x7b\x7b- | \"\\ ." := by
  have hapart : Apart "\x7b ".toList
      [(⟨"a\x7d\x7d\n\x7b\x7b-".toList, true, false⟩, " | ".toList),
        (⟨"\"\\ ".toList, false, true⟩, "\t\n.".toList)] := by
    simp only [Apart]
    decide
  obtain ⟨ns, hread, hfilled⟩ := literals_pass_through hapart Functions.none
  refine ⟨ns, hread, ?_⟩
  rw [hfilled, Except.ok.injEq]
  decide +kernel

end ProxyFleet.Template
