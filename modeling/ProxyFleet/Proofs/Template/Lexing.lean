import ProxyFleet.Proofs.Template.Positions

/-!
Items read by positions: each is the item that the cursor at the position gives, and takes as many
bytes as its characters have. Where there is a fault instead, the text can be cut at its offset.
-/

namespace ProxyFleet.Template

/-! Items. -/

namespace Run

/-- An item behind which `n` characters are taken, with bytes in their place. -/
def ofItem (c : Char) (cs : List Char) : Except ParseError (Item × Nat) → Run (Item × Nat)
  | .ok (i, n) => pure (i, byteSize (c :: cs.take n))
  | .error e => throw (.fault e)

end Run

theorem utf8Size_point : '.'.utf8Size = 1 := rfl

theorem utf8Size_quote : '"'.utf8Size = 1 := rfl

theorem utf8Size_backslash : '\\'.utf8Size = 1 := rfl

theorem quotedAt_eq (pos : Nat) (text : List Char) (i : Nat) (cs : List Char) :
    quotedAt pos text i cs =
      match quotedBody pos (pos + i) cs with
      | .ok (more, n) =>
        pure (.literal (.str (String.ofList (text ++ more))), i + byteSize (cs.take n))
      | .error e => throw (.fault e) := by
  fun_induction quotedAt pos text i cs with
  | case1 text i => rfl
  | case2 text i => rfl
  | case3 text i c cs hescape => simp [quotedBody, hescape, Run.fail, Nat.add_assoc]
  | case4 text i c cs d hescape ih =>
    have hoffset : pos + (i + 1 + c.utf8Size) = pos + i + 1 + c.utf8Size := by omega
    rw [ih, hoffset]
    simp only [quotedBody, hescape]
    cases quotedBody pos (pos + i + 1 + c.utf8Size) cs with
    | error e => rfl
    | ok p => simp [utf8Size_backslash, Nat.add_assoc]
  | case5 text i cs => simp [quotedBody, utf8Size_quote]
  | case6 text i cs => simp [quotedBody, Run.fail]
  | case7 text i c cs hend hescape hquote hnewline ih =>
    rw [ih, quotedBody.eq_4 _ _ _ _ hend hescape, if_neg hquote, if_neg hnewline, ← Nat.add_assoc]
    cases quotedBody pos (pos + i + c.utf8Size) cs with
    | error e => rfl
    | ok p => simp [Nat.add_assoc]

theorem fieldsAt_end (taken cs : List Char) (hend : cs.head? ≠ some '.') (limit : Nat)
    (path : List String) :
    fieldsAt (taken ++ cs) (limit + 1) path (byteSize taken) =
      pure (.field path, byteSize taken) := by
  rw [fieldsAt, sliceFrom_append]
  simp only [pure_bind, hend, if_false]

theorem fieldsAt_point (taken cs : List Char) (limit : Nat) (path : List String) :
    fieldsAt (taken ++ '.' :: cs) (limit + 1) path (byteSize taken) =
      if cs.takeWhile isIdentChar = [] then
        pure (.field path, if path.isEmpty then byteSize (taken ++ ['.']) else byteSize taken)
      else
        fieldsAt (taken ++ '.' :: cs) limit (path ++ [String.ofList (cs.takeWhile isIdentChar)])
          (byteSize (taken ++ '.' :: cs.takeWhile isIdentChar)) := by
  have hbehind : sliceFrom (taken ++ '.' :: cs) (byteSize taken + 1) = pure cs := by
    have h := sliceFrom_append (taken ++ ['.']) cs
    rwa [List.append_assoc, byteSize_append, byteSize_cons, utf8Size_point] at h
  rw [fieldsAt, sliceFrom_append]
  simp only [pure_bind, List.head?_cons, if_true, hbehind, sliceTo_spanSize]
  simp only [spanSize_eq, byteSize_eq_zero_iff, byteSize_append, byteSize_cons, byteSize_nil,
    utf8Size_point, Nat.add_assoc, Nat.add_zero]

/-- The path behind a point that follows what has been taken. -/
theorem fieldsAt_eq (fuel : Nat) {limit : Nat} (taken cs : List Char) (path : List String)
    (hfuel : cs.length ≤ fuel) (hlimit : cs.length < limit) :
    fieldsAt (taken ++ '.' :: cs) limit path (byteSize taken) =
      pure (.field (path ++ (fieldPath fuel cs).1),
        if path.isEmpty || !(fieldPath fuel cs).1.isEmpty then
          byteSize (taken ++ '.' :: cs.take (fieldPath fuel cs).2)
        else byteSize taken) := by
  induction limit generalizing fuel taken cs path with
  | zero => exact absurd hlimit (Nat.not_lt_zero _)
  | succ limit ih =>
    rw [fieldsAt_point]
    cases fuel with
    | zero =>
      obtain rfl : cs = [] := List.eq_nil_of_length_eq_zero (Nat.le_zero.1 hfuel)
      simp [fieldPath]
    | succ fuel =>
      rw [fieldPath]
      by_cases hname : cs.takeWhile isIdentChar = []
      · simp [hname]
      · have hcs := cs.takeWhile_append_dropWhile (p := isIdentChar)
        generalize cs.takeWhile isIdentChar = name at hname hcs ⊢
        rw [if_neg hname]
        simp only [List.isEmpty_iff, hname, if_false]
        split
        · next rest hrest =>
          rw [hrest] at hcs
          subst hcs
          simp only [List.length_append, List.length_cons] at hfuel hlimit
          have hagain := ih fuel (taken ++ '.' :: name) rest (path ++ [String.ofList name])
            (by omega) (by omega)
          simp only [List.append_assoc, List.cons_append] at hagain
          rw [hagain]
          obtain ⟨more, n⟩ := fieldPath fuel rest
          have htake : (name ++ '.' :: rest).take (name.length + 1 + n) =
              name ++ '.' :: rest.take n := by
            rw [Nat.add_assoc, List.take_length_add_append, Nat.add_comm, List.take_succ_cons]
          cases more <;> simp [htake]
        · next hend =>
          have hhead : (cs.dropWhile isIdentChar).head? ≠ some '.' := by
            intro h
            obtain ⟨rest, hrest⟩ := List.head?_eq_some_iff.1 h
            exact hend rest hrest
          -- The name is not empty, so that there is a round left to see its end.
          have hsome : 0 < cs.length := by
            rw [← hcs, List.length_append]
            exact Nat.lt_of_lt_of_le (List.length_pos_iff.2 hname) (Nat.le_add_right _ _)
          obtain ⟨limit, rfl⟩ : ∃ k, limit = k + 1 := ⟨limit - 1, by omega⟩
          have hagain := fieldsAt_end (taken ++ '.' :: name) _ hhead limit
            (path ++ [String.ofList name])
          rw [List.append_assoc, List.cons_append, hcs] at hagain
          rw [hagain]
          have htake : cs.take name.length = name := by
            rw [← hcs, List.take_left]
          simp [htake]

theorem rawAt_eq (pos : Nat) {c : Char} (hc : c.utf8Size = 1) (cs : List Char) :
    rawAt pos (c :: cs) =
      if (cs.takeWhile (· ≠ backtick)).length < cs.length then
        pure (.literal (.str (String.ofList (cs.takeWhile (· ≠ backtick)))),
          byteSize (c :: cs.take ((cs.takeWhile (· ≠ backtick)).length + 1)))
      else Run.fail .unterminatedRaw pos := by
  have hsearch : findChar (· = backtick) cs =
      if (cs.takeWhile (· ≠ backtick)).length < cs.length then
        some (byteSize (cs.takeWhile (· ≠ backtick)))
      else none := by
    simp only [findChar_eq, ne_eq, decide_not]
  have hcs := cs.takeWhile_append_dropWhile (p := (· ≠ backtick))
  have hstop := List.head?_dropWhile_not (· ≠ backtick) cs
  rw [rawAt, sliceFrom_cons hc, pure_bind, hsearch]
  generalize cs.takeWhile (· ≠ backtick) = text at hcs ⊢
  generalize cs.dropWhile (· ≠ backtick) = behind at hcs hstop
  subst hcs
  have hfront : sliceTo (c :: (text ++ behind)) (byteSize text + 1) = pure (c :: text) := by
    have h := sliceTo_append (c :: text) behind
    rwa [List.cons_append, byteSize_cons, hc, Nat.add_comm] at h
  cases behind with
  | nil => simp
  | cons d behind =>
    obtain rfl : d = backtick := by simpa using hstop
    have hbacktick : backtick.utf8Size = 1 := rfl
    have hsize : byteSize text + 2 = 1 + (byteSize text + 1) := by omega
    simp [hfront, sliceFrom_cons hc, List.take_length_add_append, hc, hbacktick, hsize]

theorem numberAt_eq (pos : Nat) {c : Char} (hc : isNumberChar c = true) (cs : List Char) :
    numberAt pos (c :: cs) =
      match number? (c :: cs.takeWhile isNumberChar) with
      | some value => pure (.literal value, byteSize (c :: cs.takeWhile isNumberChar))
      | none => Run.fail (.badNumber (String.ofList (c :: cs.takeWhile isNumberChar))) pos := by
  have htext : (c :: cs).takeWhile isNumberChar = c :: cs.takeWhile isNumberChar :=
    List.takeWhile_cons_of_pos hc
  rw [numberAt, sliceTo_spanSize, spanSize_eq, htext]
  rfl

theorem wordAt_eq {c : Char} (hc : isIdentChar c = true) (cs : List Char) :
    wordAt (c :: cs) =
      pure (wordItem (c :: cs.takeWhile isIdentChar),
        byteSize (c :: cs.takeWhile isIdentChar)) := by
  have htext : (c :: cs).takeWhile isIdentChar = c :: cs.takeWhile isIdentChar :=
    List.takeWhile_cons_of_pos hc
  rw [wordAt, sliceTo_spanSize, spanSize_eq, htext]
  rfl

theorem itemAt_eq {spaced : Bool} {limit pos : Nat} {c : Char} {cs : List Char}
    (hmarker : (c = '-' && spaced && cs.take 2 = ['\x7d', '\x7d']) = false)
    (hlimit : cs.length < limit) :
    itemAt limit pos (c :: cs) c = Run.ofItem c cs (item spaced pos c cs) := by
  unfold itemAt item
  rw [hmarker]
  simp only [Bool.false_eq_true, if_false, apply_ite (Run.ofItem c cs)]
  refine ite_congr ?delimiter (fun h => ?stop) fun _ => ite_congr rfl (fun h => ?pipe) fun _ =>
    ite_congr rfl (fun h => ?opening) fun _ => ite_congr rfl (fun h => ?closing) fun _ =>
    ite_congr rfl (fun h => ?quoted) fun _ => ite_congr rfl (fun h => ?raw) fun _ =>
    ite_congr rfl (fun h => ?field) fun _ => ite_congr rfl (fun h => ?number) fun _ =>
    ite_congr rfl (fun h => ?word) fun _ => ?unexpected
  case delimiter =>
    simp only [Bool.and_eq_true, decide_eq_true_eq, isPrefixOf_pair_iff]
    exact propext (and_congr_right fun h => and_iff_right h)
  case stop =>
    simp only [Bool.and_eq_true, decide_eq_true_eq] at h
    obtain ⟨rfl, hhead⟩ := h
    obtain ⟨behind, rfl⟩ := List.head?_eq_some_iff.1 hhead
    rfl
  case pipe =>
    rw [h]
    rfl
  case opening =>
    rw [h]
    rfl
  case closing =>
    rw [h]
    rfl
  case quoted =>
    subst h
    rw [List.drop_succ_cons, List.drop_zero, quotedAt_eq]
    cases quotedBody pos (pos + 1) cs with
    | error e => rfl
    | ok p => simp [Run.ofItem, utf8Size_quote]
  case raw =>
    subst h
    exact rawAt_eq pos rfl cs
  case field =>
    subst h
    exact fieldsAt_eq cs.length [] cs [] (Nat.le_refl _) hlimit
  case number =>
    have hc : isNumberChar c = true := by
      simp only [Bool.or_eq_true, decide_eq_true_eq] at h
      obtain (h | h) | h := h <;> simp [isNumberChar, Char.isAlphanum, h]
    rw [numberAt_eq pos hc]
    cases number? (c :: cs.takeWhile isNumberChar) with
    | none => rfl
    | some value => simp [Run.ofItem, take_length_takeWhile]
  case word =>
    have hc : isIdentChar c = true := by
      rw [Bool.or_eq_true] at h
      rw [isIdentChar, Bool.or_eq_true]
      exact h.imp_left Text.isLetterOrNumber_of_isLetter
    rw [wordAt_eq hc]
    simp only [Run.ofItem, take_length_takeWhile]
  case unexpected => rfl

/-! Cursors. -/

/-- A cursor stands in `src`: what is left is the end of it, and the offset tells how much comes
before. -/
def Cursor.In (c : Cursor) (src : List Char) : Prop :=
  ∃ before, src = before ++ c.rest ∧ byteSize before = c.offset

namespace Cursor.In

variable {c : Cursor} {src : List Char}

theorem start (src : List Char) : Cursor.In ⟨src, 0⟩ src := ⟨[], rfl, rfl⟩

theorem advance (h : c.In src) (n : Nat) : (c.advance n).In src := by
  obtain ⟨before, hsrc, hsize⟩ := h
  refine ⟨before ++ c.rest.take n, ?_, ?_⟩
  · rw [hsrc, List.append_assoc, Cursor.advance, List.take_append_drop]
  · rw [byteSize_append, hsize, Cursor.advance]

theorem sliceFrom (h : c.In src) : sliceFrom src c.offset = pure c.rest := by
  obtain ⟨before, hsrc, hsize⟩ := h
  rw [hsrc, ← hsize, sliceFrom_append]

theorem skipBlanks (h : c.In src) : c.skipBlanks.In src := h.advance _

theorem isSome_cut? (h : c.In src) : (cut? src c.offset).isSome = true := by
  obtain ⟨before, hsrc, hsize⟩ := h
  rw [hsrc, ← hsize, cut?_append]
  rfl

theorem scan {after : Cursor} {l : Lexeme} (h : c.In src) (hscan : scan c = .ok (l, after)) :
    after.In src := by
  obtain ⟨_, _, n, _, _, _, rfl⟩ := scan_eq_ok hscan
  exact h.skipBlanks.advance (n + 1)

end Cursor.In

theorem Cursor.advance_advance (c : Cursor) (m n : Nat) :
    (c.advance m).advance n = c.advance (m + n) := by
  simp only [advance, List.drop_drop, List.take_add, byteSize_append, Nat.add_assoc]

theorem Cursor.offset_skipBlanks (c : Cursor) :
    c.skipBlanks.offset = c.offset + blankSize c.rest := by
  rw [blankSize_eq, skipBlanks, advance, take_length_takeWhile]

theorem trimsRight_eq (spaced : Bool) (ch : Char) (rest : List Char) :
    trimsRight spaced (ch :: rest) =
      pure (ch = '-' && spaced && rest.take 2 = ['\x7d', '\x7d']) := by
  have hclosed : ['\x7d', '\x7d'].isPrefixOf rest = decide (rest.take 2 = ['\x7d', '\x7d']) := by
    rw [Bool.eq_iff_iff, List.isPrefixOf_iff_prefix, decide_eq_true_iff, List.prefix_iff_eq_take]
    exact eq_comm
  rw [trimsRight, signBefore_cons, hclosed]
  cases spaced <;> simp

theorem item_marker {spaced : Bool} {ch : Char} {rest : List Char}
    (hmarker : (ch = '-' && spaced && rest.take 2 = ['\x7d', '\x7d']) = true) (offset : Nat) :
    item spaced offset ch rest =
      .ok (.stop, 2 + ((rest.drop 2).takeWhile Text.isBlank).length) := by
  unfold item
  rw [if_neg, if_pos hmarker]
  simp only [Bool.and_eq_true, decide_eq_true_eq] at hmarker ⊢
  rintro ⟨rfl, -⟩
  exact absurd hmarker.1.1 (by decide)

/-- A trim marker and the delimiter are three bytes, and what they reach is white space. -/
theorem Cursor.advance_marker {c : Cursor} {rest : List Char} (hrest : c.rest = '-' :: rest)
    (hclosed : rest.take 2 = ['\x7d', '\x7d']) :
    (c.advance 3).offset = c.offset + 3 ∧
      c.advance (2 + ((rest.drop 2).takeWhile Text.isBlank).length + 1) =
        (c.advance 3).skipBlanks := by
  refine ⟨?_, ?_⟩
  · rw [advance, hrest, List.take_succ_cons, hclosed]
    rfl
  · have hbehind : (c.advance 3).rest = rest.drop 2 := by
      rw [advance, hrest, List.drop_succ_cons]
    rw [skipBlanks, hbehind, advance_advance]
    congr 1
    omega

/-- Reading an item by positions gives the item that the cursor gives, and where it leads. -/
theorem lexemeAt_eq {c : Cursor} {src : List Char} (h : c.In src) {limit : Nat}
    (hlimit : c.rest.length ≤ limit) :
    lexemeAt src limit c.offset =
      match scan c with
      | .ok (l, after) => pure (l.item, after.offset)
      | .error e => throw (.fault e) := by
  have hspaced : byteSize c.skipBlanks.rest < byteSize c.rest ↔
      c.skipBlanks.rest.length < c.rest.length := by
    rw [c.rest_skipBlanks]
    exact byteSize_dropWhile_lt_iff
  unfold lexemeAt scan
  rw [h.sliceFrom]
  simp only [pure_bind, ← c.rest_skipBlanks, ← c.offset_skipBlanks, hspaced]
  cases hrest : c.skipBlanks.rest with
  | nil => rfl
  | cons ch rest =>
    simp only [trimsRight_eq, pure_bind]
    cases hmarker : (ch = '-' && decide ((ch :: rest).length < c.rest.length) &&
        decide (rest.take 2 = ['\x7d', '\x7d'])) with
    | true =>
      rw [item_marker hmarker, if_pos rfl]
      simp only [Bool.and_eq_true, decide_eq_true_eq] at hmarker
      obtain ⟨⟨rfl, -⟩, hclosed⟩ := hmarker
      obtain ⟨hoffset, hafter⟩ := Cursor.advance_marker hrest hclosed
      have hbehind := (h.skipBlanks.advance 3).sliceFrom
      rw [hoffset] at hbehind
      simp only [hafter, (c.skipBlanks.advance 3).offset_skipBlanks, hoffset, hbehind, pure_bind]
    | false =>
      have hrounds : rest.length < limit := by
        have hskip : c.skipBlanks.rest.length ≤ c.rest.length := c.length_advance_le _
        rw [hrest, List.length_cons] at hskip
        omega
      rw [itemAt_eq hmarker hrounds, if_neg Bool.false_ne_true]
      cases item (decide ((ch :: rest).length < c.rest.length)) c.skipBlanks.offset ch rest with
      | error e => rfl
      | ok p => simp [Run.ofItem, Cursor.advance, hrest]

/-! Offsets of faults. -/

theorem offset_of_quotedBody_error {start offset : Nat} {cs : List Char} {e : ParseError}
    (h : quotedBody start offset cs = .error e) :
    e.offset = start ∨ ∃ n, e.offset = offset + byteSize (cs.take n) := by
  fun_induction quotedBody start offset cs with
  | case1 =>
    cases h
    exact Or.inl rfl
  | case2 =>
    cases h
    exact Or.inl rfl
  | case3 offset c rest hescape =>
    cases h
    exact Or.inr ⟨1, rfl⟩
  | case4 => cases h
  | case5 offset c rest d hescape e' hrest ih =>
    obtain hstart | ⟨n, hn⟩ := ih (hrest.trans h)
    · exact Or.inl hstart
    · refine Or.inr ⟨n + 2, ?_⟩
      rw [hn, List.take_succ_cons, List.take_succ_cons, byteSize_cons, byteSize_cons,
        Nat.add_assoc, Nat.add_assoc]
      rfl
  | case6 => cases h
  | case7 =>
    cases h
    exact Or.inl rfl
  | case8 => cases h
  | case9 offset c rest hend hescape hquote hnewline e' hrest ih =>
    obtain hstart | ⟨n, hn⟩ := ih (hrest.trans h)
    · exact Or.inl hstart
    · refine Or.inr ⟨n + 1, ?_⟩
      rw [hn, List.take_succ_cons, byteSize_cons, Nat.add_assoc]

theorem offset_of_item_error {spaced : Bool} {offset : Nat} {c : Char} {cs : List Char}
    {e : ParseError} (h : item spaced offset c cs = .error e) :
    ∃ n, e.offset = offset + byteSize ((c :: cs).take n) := by
  unfold item at h
  -- Only in a quoted text is there a fault at another place than where the item begins.
  iterate 5 (obtain ⟨-, h⟩ | ⟨-, h⟩ := ite_eq_iff.1 h; · cases h)
  obtain ⟨hc, h⟩ | ⟨-, h⟩ := ite_eq_iff.1 h
  · split at h
    · cases h
    · next e' hquoted =>
      cases h
      obtain hstart | ⟨n, hn⟩ := offset_of_quotedBody_error hquoted
      · exact ⟨0, hstart⟩
      · refine ⟨n + 1, ?_⟩
        rw [hn, List.take_succ_cons, byteSize_cons, hc, utf8Size_quote, Nat.add_assoc]
  refine ⟨0, ?_⟩
  obtain ⟨-, h⟩ | ⟨-, h⟩ := ite_eq_iff.1 h
  · obtain ⟨-, h⟩ | ⟨-, h⟩ := ite_eq_iff.1 h <;> cases h
    rfl
  obtain ⟨-, h⟩ | ⟨-, h⟩ := ite_eq_iff.1 h
  · cases h
  obtain ⟨-, h⟩ | ⟨-, h⟩ := ite_eq_iff.1 h
  · dsimp only at h
    split at h <;> cases h
    rfl
  obtain ⟨-, h⟩ | ⟨-, h⟩ := ite_eq_iff.1 h <;> cases h
  rfl

/-- The offset of a fault in the lexemes is one at which the text can be cut. -/
theorem isSome_cut?_of_scan_error {c : Cursor} {src : List Char} (hc : c.In src) {e : ParseError}
    (h : scan c = .error e) : (cut? src e.offset).isSome = true := by
  simp only [scan] at h
  split at h
  · cases h
    exact hc.skipBlanks.isSome_cut?
  · next ch rest hrest =>
    split at h
    · next e' hitem =>
      cases h
      obtain ⟨n, hn⟩ := offset_of_item_error hitem
      rw [hn, ← hrest]
      exact (hc.skipBlanks.advance n).isSome_cut?
    · cases h

/-! Points. -/

theorem scan_of_point {c : Cursor} (h : c.rest.head? = some '.') :
    ∃ path after, scan c = .ok (⟨.field path, c.offset, c.offset, after.offset⟩, after) := by
  obtain ⟨rest, hrest⟩ := List.head?_eq_some_iff.1 h
  have hskip : c.skipBlanks = c := by
    rw [Cursor.skipBlanks, hrest]
    rfl
  refine ⟨(fieldPath rest.length rest).1, c.advance ((fieldPath rest.length rest).2 + 1), ?_⟩
  simp [scan, hskip, hrest, item, backtick]

/-- A path of fields begins with a point. -/
theorem head?_of_field {c after : Cursor} {l : Lexeme} {path : List String}
    (h : scan c = .ok (l, after)) (hl : l.item = .field path) (hstart : l.before = l.start) :
    c.rest.head? = some '.' := by
  obtain ⟨ch, rest, n, hrest, hitem, hlexeme, _⟩ := scan_eq_ok h
  rw [hl] at hitem
  have hbefore : l.before = c.offset := by rw [hlexeme]
  have hbegin : l.start = c.offset + byteSize (c.rest.takeWhile Text.isBlank) := by
    rw [hlexeme, c.offset_skipBlanks, blankSize_eq]
  have hblank : c.rest.takeWhile Text.isBlank = [] := by
    rw [← byteSize_eq_zero_iff]
    omega
  have hskip := Text.takeWhile_append_trimStart c.rest
  rw [hblank, List.nil_append, ← c.rest_skipBlanks, hrest] at hskip
  rw [← hskip]
  exact fronts_of_item hitem

end ProxyFleet.Template
