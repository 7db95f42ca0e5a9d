import Mathlib.Data.List.Infix
import ProxyFleet.Template.Parser

/-!
What each step of reading a template takes from its text: always a front of what is left, so that
what is read later is the end of what there was.
-/

namespace ProxyFleet.Template

theorem drop_length_takeWhile (p : Char → Bool) (cs : List Char) :
    cs.drop (cs.takeWhile p).length = cs.dropWhile p := by
  have h := @List.drop_left _ (cs.takeWhile p) (cs.dropWhile p)
  rwa [List.takeWhile_append_dropWhile] at h

/-! Items. -/

/-- A word is a name unless it is a literal. -/
theorem wordItem_cases (word : List Char) :
    (∃ value, wordItem word = .literal value) ∨ wordItem word = .ident (String.ofList word) := by
  unfold wordItem
  split
  · exact Or.inl ⟨_, rfl⟩
  · exact Or.inl ⟨_, rfl⟩
  · exact Or.inl ⟨_, rfl⟩
  · exact Or.inr rfl

/-- What an item says of the text that it is read from the front of. -/
def Item.Fronts (cs : List Char) : Item → Prop
  | .field _ => cs.head? = some '.'
  | .ident name => name.toList <+: cs
  | _ => True

theorem fronts_of_item {spaced : Bool} {offset n : Nat} {c : Char} {rest : List Char} {i : Item}
    (h : item spaced offset c rest = .ok (i, n)) : i.Fronts (c :: rest) := by
  unfold item at h
  -- One branch after the other; most give an item that says nothing.
  iterate 5 (obtain ⟨-, h⟩ | ⟨-, h⟩ := ite_eq_iff.1 h; · cases h; trivial)
  obtain ⟨-, h⟩ | ⟨-, h⟩ := ite_eq_iff.1 h
  · split at h <;> cases h
    trivial
  obtain ⟨-, h⟩ | ⟨-, h⟩ := ite_eq_iff.1 h
  · dsimp only at h
    split at h <;> cases h
    trivial
  obtain ⟨hpoint, h⟩ | ⟨-, h⟩ := ite_eq_iff.1 h
  · cases h
    exact congrArg some hpoint
  obtain ⟨-, h⟩ | ⟨-, h⟩ := ite_eq_iff.1 h
  · dsimp only at h
    split at h <;> cases h
    trivial
  obtain ⟨-, h⟩ | ⟨-, h⟩ := ite_eq_iff.1 h
  · simp only [Except.ok.injEq, Prod.mk.injEq] at h
    rw [← h.1]
    obtain ⟨value, hword⟩ | hword := wordItem_cases (c :: rest.takeWhile isIdentChar)
    · rw [hword]
      trivial
    · rw [hword, Item.Fronts, String.toList_ofList, List.cons_prefix_cons]
      exact ⟨rfl, List.takeWhile_prefix _⟩
  · cases h

/-! Cursors and lexemes. -/

theorem take_length_takeWhile (p : Char → Bool) (cs : List Char) :
    cs.take (cs.takeWhile p).length = cs.takeWhile p :=
  (List.prefix_iff_eq_take.1 (List.takeWhile_prefix p)).symm

theorem Cursor.rest_advance_suffix (c : Cursor) (n : Nat) : (c.advance n).rest <:+ c.rest :=
  List.drop_suffix n c.rest

theorem Cursor.rest_skipBlanks (c : Cursor) : c.skipBlanks.rest = Text.trimStart c.rest :=
  drop_length_takeWhile Text.isBlank c.rest

/-- What a lexeme is made of: the item behind the white space, and the offsets around it. -/
theorem scan_eq_ok {c after : Cursor} {l : Lexeme} (h : scan c = .ok (l, after)) :
    ∃ ch rest n, c.skipBlanks.rest = ch :: rest ∧
      item (c.skipBlanks.rest.length < c.rest.length) c.skipBlanks.offset ch rest =
        .ok (l.item, n) ∧
      l = ⟨l.item, c.offset, c.skipBlanks.offset, after.offset⟩ ∧
      after = c.skipBlanks.advance (n + 1) := by
  simp only [scan] at h
  split at h
  · cases h
  · next ch rest hrest =>
    split at h
    · cases h
    · next i n hitem =>
      cases h
      exact ⟨ch, rest, n, hrest, hitem, rfl, rfl⟩

theorem scan_offsets {c after : Cursor} {l : Lexeme} (h : scan c = .ok (l, after)) :
    l.before = c.offset ∧ l.stop = after.offset := by
  obtain ⟨_, _, _, _, _, hl, _⟩ := scan_eq_ok h
  rw [hl]
  exact ⟨rfl, rfl⟩

theorem rest_scan_suffix {c after : Cursor} {l : Lexeme} (h : scan c = .ok (l, after)) :
    after.rest <:+ c.rest := by
  obtain ⟨_, _, n, _, _, _, rfl⟩ := scan_eq_ok h
  exact (Cursor.rest_advance_suffix _ _).trans (Cursor.rest_advance_suffix _ _)

namespace Lexemes

theorem read_of_error {c : Cursor} {e : ParseError} (h : scan c = .error e) :
    read c = .broken e := by
  rw [read]
  split <;> simp_all

theorem read_of_ok {c after : Cursor} {l : Lexeme} (h : scan c = .ok (l, after)) :
    read c = if isStop l.item then .closed l after else .next l (read after) := by
  rw [read]
  split <;> simp_all

theorem rest_after_read_suffix (c : Cursor) : (read c).after.rest <:+ c.rest := by
  fun_induction read c with
  | case1 c e h => exact List.nil_suffix
  | case2 c l rest h hstop => exact rest_scan_suffix h
  | case3 c l rest h hstop ih => exact ih.trans (rest_scan_suffix h)

end Lexemes

theorem rest_action_suffix {fs : Functions} {c after : Cursor} {p : Option Pipeline}
    (h : action fs c = .ok (p, after)) : after.rest <:+ c.rest := by
  simp only [action] at h
  split at h
  · cases h
  · next n hn =>
    split at h
    · next last rest hread =>
      cases h
      have hafter := Lexemes.rest_after_read_suffix (c.advance n)
      rw [hread] at hafter
      exact hafter.trans (c.rest_advance_suffix n)
    · cases h
    · cases h
  · split at h
    · cases h
    · cases h
      exact Lexemes.rest_after_read_suffix c

/-! Text up to an opening delimiter. -/

theorem isSome_cutAtOpen_iff {cs : List Char} :
    (cutAtOpen cs).isSome = true ↔ ['\x7b', '\x7b'] <:+: cs := by
  fun_induction cutAtOpen cs with
  | case1 => simp
  | case2 c =>
    simp only [Option.isSome_none, Bool.false_eq_true, false_iff]
    intro h
    exact absurd h.length_le (by simp)
  | case3 c d rest hc =>
    obtain ⟨rfl, rfl⟩ : c = '\x7b' ∧ d = '\x7b' := by simpa using hc
    simp only [Option.isSome_some, true_iff]
    exact (List.prefix_append ['\x7b', '\x7b'] rest).isInfix
  | case4 c d rest hc ih =>
    have hne : ¬ ['\x7b', '\x7b'] <+: c :: d :: rest := by
      intro h
      simp only [List.cons_prefix_cons] at h
      simp [← h.1, ← h.2.1] at hc
    rw [Option.isSome_map, ih]
    constructor
    · intro h
      exact List.infix_cons_iff.2 (Or.inr h)
    · intro h
      exact (List.infix_cons_iff.1 h).resolve_left hne

theorem cutAtOpen_eq_none_iff {cs : List Char} :
    cutAtOpen cs = none ↔ ¬ ['\x7b', '\x7b'] <:+: cs := by
  rw [← isSome_cutAtOpen_iff, Option.not_isSome_iff_eq_none]

theorem cutAtOpen_eq_some {cs text behind : List Char} (h : cutAtOpen cs = some (text, behind)) :
    cs = text ++ '\x7b' :: '\x7b' :: behind := by
  fun_induction cutAtOpen cs generalizing text with
  | case1 => cases h
  | case2 c => cases h
  | case3 c d rest hc =>
    obtain ⟨rfl, rfl⟩ : c = '\x7b' ∧ d = '\x7b' := by simpa using hc
    cases h
    rfl
  | case4 c d rest hc ih =>
    obtain ⟨⟨front, _⟩, hcut, he⟩ := Option.map_eq_some_iff.1 h
    cases he
    rw [List.cons_append, ← ih hcut]

namespace Cursor

def enter (c : Cursor) (text : List Char) : Cursor :=
  if trimsLeft (c.advance (text.length + 2)).rest then (c.advance (text.length + 2)).advance 1
  else c.advance (text.length + 2)

def textBefore (c : Cursor) (text : List Char) : List Char :=
  if trimsLeft (c.advance (text.length + 2)).rest then Text.trimEnd text else text

theorem rest_enter_suffix (c : Cursor) (text : List Char) : (c.enter text).rest <:+ c.rest := by
  unfold enter
  split
  · exact (rest_advance_suffix _ _).trans (rest_advance_suffix _ _)
  · exact rest_advance_suffix _ _

theorem length_enter_lt {c : Cursor} {text behind : List Char}
    (h : cutAtOpen c.rest = some (text, behind)) : (c.enter text).rest.length < c.rest.length := by
  have hlen := length_cutAtOpen h
  have hopened : (c.advance (text.length + 2)).rest.length < c.rest.length := by
    simp only [advance, List.length_drop]
    omega
  unfold enter
  split
  · exact Nat.lt_of_le_of_lt (length_advance_le _ 1) hopened
  · exact hopened

end Cursor

section Nodes

variable {fs : Functions} {c : Cursor}

theorem nodes_of_plain (h : cutAtOpen c.rest = none) : nodes fs c = .ok (textNode c.rest) := by
  rw [nodes]
  split <;> simp_all

theorem nodes_of_action {text behind : List Char} (hcut : cutAtOpen c.rest = some (text, behind)) :
    nodes fs c =
      match action fs (c.enter text) with
      | .error e => .error e
      | .ok (pipeline, after) =>
        match nodes fs after with
        | .error e => .error e
        | .ok rest =>
          .ok (textNode (c.textBefore text) ++ (pipeline.map Node.action).toList ++ rest) := by
  rw [nodes]
  split
  · simp_all
  · next text' behind' hcut' =>
    cases hcut.symm.trans hcut'
    simp only [Cursor.enter, Cursor.textBefore]
    split
    · next e haction => rw [haction]
    · next pipeline after haction =>
      cases hnodes : nodes fs after <;> simp only [haction, hnodes]

end Nodes

end ProxyFleet.Template
