import ProxyFleet.Caddyfile.Parser
import ProxyFleet.Proofs.Caddyfile.Tree
import ProxyFleet.Proofs.Caddyfile.Words

/-!
A written tree is its words, braces among them, with white space around each. Reading keeps step with
the words up to the first that is not read as it is written; there another word is read, or none
because the word is taken for a comment and characters are lost.
-/

namespace ProxyFleet.Caddyfile

open Text (isBlank)

mutual

def wordsOf : Block → List String
  | ⟨keys, _, children⟩ =>
    keys ++ if children.isEmpty then [] else openBrace :: wordsIn children ++ [closeBrace]

def wordsIn : List Block → List String
  | [] => []
  | b :: rest => wordsOf b ++ wordsIn rest

end

theorem wordsIn_append (as bs : List Block) : wordsIn (as ++ bs) = wordsIn as ++ wordsIn bs := by
  induction as with
  | nil => rfl
  | cons a as ih => rw [List.cons_append, wordsIn, wordsIn, ih, List.append_assoc]

theorem writtenAll_append (level : Nat) (as bs : List Block) :
    writtenAll level (as ++ bs) = writtenAll level as ++ writtenAll level bs := by
  induction as with
  | nil => rfl
  | cons a as ih => rw [List.cons_append, writtenAll, writtenAll, ih, List.append_assoc]

/-- The words of a block of this shape, but for those between its braces. -/
def shapeWords (s : List String × Nat) : List String :=
  s.1 ++ if s.2 = 0 then [] else [openBrace, closeBrace]

theorem wordsIn_perm : ∀ bs : List Block, (wordsIn bs).Perm ((shapes bs).flatMap shapeWords)
  | [] => List.Perm.nil
  | ⟨keys, order, children⟩ :: rest => by
    have hc := wordsIn_perm children
    have hrest := wordsIn_perm rest
    rw [wordsIn, wordsOf, shapes_cons, List.flatMap_cons, List.flatMap_append, shapeWords, shape]
    dsimp only
    cases children with
    | nil => simpa [shapes, blocksIn] using hrest.append_left keys
    | cons child children =>
      simp only [List.isEmpty_cons, Bool.false_eq_true, if_false, List.length_cons,
        Nat.add_one_ne_zero, List.append_assoc]
      refine List.Perm.append_left keys ?_
      have hclose : (wordsIn (child :: children) ++ [closeBrace]).Perm
          (closeBrace :: (shapes (child :: children)).flatMap shapeWords) :=
        List.perm_append_singleton _ _ |>.trans (hc.cons closeBrace)
      have h := (hclose.cons openBrace).append hrest
      simpa using h

theorem wordsIn_sortEach_perm (bs : List Block) : (wordsIn (sortEach bs)).Perm (wordsIn bs) :=
  (wordsIn_perm _).trans (((shapes_sortEach bs).flatMap_right _).trans (wordsIn_perm bs).symm)

theorem wordsIn_sort_perm (bs : List Block) : (wordsIn (sort bs)).Perm (wordsIn bs) :=
  (wordsIn_perm _).trans (((shapes_sort bs).flatMap_right _).trans (wordsIn_perm bs).symm)

theorem mem_wordsIn {bs : List Block} {b : Block} (hb : b ∈ blocksIn bs) {key : String}
    (hk : key ∈ b.keys) : key ∈ wordsIn bs := by
  rw [(wordsIn_perm bs).mem_iff, List.mem_flatMap]
  exact ⟨shape b, List.mem_map_of_mem hb, List.mem_append_left _ hk⟩

/-- The text is the words as they are written, each between white space. -/
inductive Lays : List String → List Char → Prop
  | nil : Lays [] []
  | blank {c : Char} {ws : List String} {rest : List Char} (hc : isBlank c = true)
      (h : Lays ws rest) : Lays ws (c :: rest)
  | word (key : String) {ws : List String} {rest : List Char} (hr : EndsWord rest)
      (h : Lays ws rest) : Lays (key :: ws) (writtenKey key.toList ++ rest)

theorem Lays.append {vs ws : List String} {cs ds : List Char} (h : Lays vs cs) (hd : EndsWord ds)
    (hl : Lays ws ds) : Lays (vs ++ ws) (cs ++ ds) := by
  induction h with
  | nil => exact hl
  | blank hc _ ih => exact Lays.blank hc ih
  | @word key ws rest hr _ ih =>
    have hrest : EndsWord (rest ++ ds) := by
      cases rest with
      | nil => exact hd
      | cons c rest => exact hr
    rw [List.append_assoc]
    exact Lays.word key hrest ih

theorem lays_writtenKeys : ∀ keys : List String, Lays keys (writtenKeys keys)
  | [] => Lays.nil
  | [key] => by
    rw [writtenKeys, ← List.append_nil (writtenKey key.toList)]
    exact Lays.word key nofun Lays.nil
  | key :: k :: keys => by
    rw [writtenKeys]
    · exact Lays.word key (endsWord_cons Text.isBlank_space _)
        (Lays.blank Text.isBlank_space (lays_writtenKeys (k :: keys)))
    · nofun

theorem Lays.tabs {ws : List String} {cs : List Char} (h : Lays ws cs) (level : Nat) :
    Lays ws (List.replicate level '\t' ++ cs) := by
  induction level with
  | zero => exact h
  | succ level ih => exact Lays.blank (by decide) ih

mutual

theorem Lays.written (level : Nat) : ∀ (b : Block) {ws : List String} {rest : List Char},
    Lays ws rest → Lays (wordsOf b ++ ws) (written level b ++ rest)
  | ⟨keys, _, children⟩, ws, rest, h => by
    have hline : Lays ws ('\n' :: rest) := Lays.blank Text.isBlank_newline h
    rw [wordsOf, Caddyfile.written]
    cases children with
    | nil =>
      simp only [List.isEmpty_nil, if_true, List.append_nil, List.append_assoc,
        List.singleton_append]
      exact ((lays_writtenKeys keys).append (endsWord_cons Text.isBlank_newline _) hline).tabs level
    | cons child children =>
      have hclose : Lays (closeBrace :: ws)
          (List.replicate level '\t' ++ '\x7d' :: '\n' :: rest) :=
        (Lays.word closeBrace (endsWord_cons Text.isBlank_newline _) hline).tabs level
      have hbody := Lays.writtenAll (level + 1) (child :: children) hclose
      have hopen : Lays (openBrace :: (wordsIn (child :: children) ++ closeBrace :: ws))
          ('\x7b' :: '\n' :: (Caddyfile.writtenAll (level + 1) (child :: children) ++
            (List.replicate level '\t' ++ '\x7d' :: '\n' :: rest))) :=
        Lays.word openBrace (endsWord_cons Text.isBlank_newline _)
          (Lays.blank Text.isBlank_newline hbody)
      simp only [List.isEmpty_cons, Bool.false_eq_true, if_false, List.append_assoc,
        List.cons_append, List.nil_append]
      refine Lays.tabs ?_ level
      cases keys with
      | nil => exact hopen
      | cons key keys =>
        exact (lays_writtenKeys (key :: keys)).append (endsWord_cons Text.isBlank_space _)
          (Lays.blank Text.isBlank_space hopen)

theorem Lays.writtenAll (level : Nat) : ∀ (bs : List Block) {ws : List String} {rest : List Char},
    Lays ws rest → Lays (wordsIn bs ++ ws) (writtenAll level bs ++ rest)
  | [], _, _, h => h
  | b :: bs, ws, rest, h => by
    rw [wordsIn, Caddyfile.writtenAll, List.append_assoc, List.append_assoc]
    exact Lays.written level b (Lays.writtenAll level bs h)

end

/-! How often a character occurs in words, in their text and in what is read from it. -/

def charCount (c : Char) (ws : List String) : Nat := (ws.flatMap String.toList).count c

theorem charCount_cons (c : Char) (w : String) (ws : List String) :
    charCount c (w :: ws) = w.toList.count c + charCount c ws := by
  rw [charCount, List.flatMap_cons, List.count_append]
  rfl

theorem charCount_append (c : Char) (vs ws : List String) :
    charCount c (vs ++ ws) = charCount c vs + charCount c ws := by
  rw [charCount, List.flatMap_append, List.count_append]
  rfl

theorem charCount_perm (c : Char) {vs ws : List String} (h : vs.Perm ws) :
    charCount c vs = charCount c ws :=
  (h.flatMap_right _).count_eq c

theorem charCount_sublist (c : Char) {vs ws : List String} (h : vs.Sublist ws) :
    charCount c vs ≤ charCount c ws := by
  induction h with
  | slnil => exact Nat.le_refl _
  | cons w _ ih =>
    rw [charCount_cons]
    exact Nat.le_add_left_of_le ih
  | cons_cons w _ ih =>
    rw [charCount_cons, charCount_cons]
    exact Nat.add_le_add_left ih _

/-- Apart from quotes and backslashes, writing a word adds and drops nothing. -/
theorem count_writtenKey {c : Char} (hq : c ≠ '"') (hs : c ≠ '\\') (hb : c ≠ backtick)
    (key : List Char) : (writtenKey key).count c = key.count c := by
  have hesc : (escapeQuotes key).count c = key.count c := by
    induction key with
    | nil => rfl
    | cons d rest ih =>
      by_cases hd : d = '"'
      · subst hd
        rw [escapeQuotes_quote, List.count_cons_of_ne hs.symm, List.count_cons_of_ne hq.symm,
          List.count_cons_of_ne hq.symm, ih]
      · rw [escapeQuotes_cons hd, List.count_cons, List.count_cons, ih]
  rcases writtenKey_cases key with ⟨-, hw⟩ | ⟨-, -, hw⟩ | ⟨-, -, hw⟩
  · rw [hw]
  · rw [hw, List.count_append, List.count_cons_of_ne hb.symm, List.count_singleton,
      if_neg (by simpa using hb.symm), Nat.add_zero]
  · rw [hw, List.count_append, List.count_cons_of_ne hq.symm, List.count_singleton,
      if_neg (by simpa using hq.symm), Nat.add_zero, hesc]

theorem Lays.count {c : Char} (hq : c ≠ '"') (hs : c ≠ '\\') (hb : c ≠ backtick)
    (hc : isBlank c = false) {ws : List String} {cs : List Char} (h : Lays ws cs) :
    cs.count c = charCount c ws := by
  induction h with
  | nil => rfl
  | @blank d _ _ hd _ ih =>
    rw [List.count_cons_of_ne (by rintro rfl; rw [hd] at hc; exact absurd hc (by decide)), ih]
  | word key _ _ ih => rw [List.count_append, count_writtenKey hq hs hb, charCount_cons, ih]

/-! No character is read that is not written, and none twice. -/

theorem quotedText_sublist (cs : List Char) :
    ((quotedText cs).1 ++ (quotedText cs).2).Sublist cs := by
  fun_induction quotedText cs with
  | case1 => exact List.Sublist.refl []
  | case2 => exact List.Sublist.refl ['\\']
  | case3 c rest text after h ih =>
    rw [h] at ih
    dsimp only
    split
    · exact (ih.cons_cons c).cons '\\'
    · exact (ih.cons_cons c).cons_cons '\\'
  | case4 rest => exact List.sublist_cons_self '"' rest
  | case5 c rest _ _ _ text after h ih =>
    rw [h] at ih
    exact ih.cons_cons c

theorem word_sublist (c : Char) (rest : List Char) :
    ((word c rest).1 ++ (word c rest).2).Sublist (c :: rest) := by
  unfold word
  split
  · exact (quotedText_sublist rest).cons c
  · split
    · have hdrop := List.drop_sublist 1 (rest.dropWhile (· ≠ backtick))
      have hword := hdrop.append_left (rest.takeWhile (· ≠ backtick))
      rw [List.takeWhile_append_dropWhile] at hword
      exact hword.cons c
    · unfold bareText
      rw [List.cons_append, List.takeWhile_append_dropWhile]

theorem flatMap_tokensFrom_sublist (line : Nat) (cs : List Char) :
    (((tokensFrom line cs).map (·.text)).flatMap String.toList).Sublist cs := by
  fun_induction tokensFrom line cs with
  | case1 => exact List.Sublist.refl []
  | case2 line rest ih => exact ih.cons '\n'
  | case3 line c rest _ _ ih => exact ih.cons c
  | case4 line rest _ _ ih => exact (ih.trans (List.dropWhile_sublist _)).cons '#'
  | case5 line c rest _ _ _ text ih =>
    rw [List.map_cons, List.flatMap_cons, String.toList_ofList]
    exact (ih.append_left text).trans (word_sublist c rest)

theorem charCount_tokensFrom_le (c : Char) (line : Nat) (cs : List Char) :
    charCount c ((tokensFrom line cs).map (·.text)) ≤ cs.count c :=
  (flatMap_tokensFrom_sublist line cs).count_le c

/-- What is read from a layout of words: the words, if all are legible. Else reading keeps step
with them up to one that is not, where it goes on with another word or loses a number sign. -/
theorem Lays.read {ws : List String} {cs : List Char} (h : Lays ws cs) (line : Nat) :
    ((∀ key ∈ ws, Legible key) ∧ (tokensFrom line cs).map (·.text) = ws) ∨
    ∃ pre key post, ws = pre ++ key :: post ∧ ¬Legible key ∧
      ((∃ more, (tokensFrom line cs).map (·.text) = pre ++ more ∧ more.head? ≠ some key) ∨
        charCount '#' ((tokensFrom line cs).map (·.text)) < charCount '#' ws) := by
  induction h generalizing line with
  | nil => exact Or.inl ⟨nofun, by rw [tokensFrom_nil]; rfl⟩
  | @blank c ws rest hc _ ih =>
    by_cases hn : c = '\n'
    · subst hn
      rw [tokensFrom_newline]
      exact ih (line + 1)
    · rw [tokensFrom_blank hc hn]
      exact ih line
  | @word key ws rest hr hl ih =>
    by_cases hk : Legible key
    · rw [tokensFrom_writtenKey ((legible_iff key).1 hk) hr, String.ofList_toList, List.map_cons]
      rcases ih (line + key.toList.count '\n') with ⟨hall, hread⟩ | ⟨pre, bad, post, hws, hbad, hrest⟩
      · exact Or.inl ⟨List.forall_mem_cons.2 ⟨hk, hall⟩, by rw [hread]⟩
      · refine Or.inr ⟨key :: pre, bad, post, by rw [hws]; rfl, hbad, ?_⟩
        rcases hrest with ⟨more, hmore, hne⟩ | hlt
        · exact Or.inl ⟨more, by rw [hmore]; rfl, hne⟩
        · rw [charCount_cons, charCount_cons]
          exact Or.inr (Nat.add_lt_add_left hlt _)
    · refine Or.inr ⟨[], key, ws, rfl, hk, ?_⟩
      rw [legible_iff] at hk
      rcases tokensFrom_of_not_survives hk rest line with ⟨cs, hcs, hw, -⟩ | ⟨text, more, ht, hne⟩
      · -- A comment loses its number sign and whatever else is on the line.
        right
        have hcount := (Lays.word key hr hl).count (c := '#') (by decide) (by decide) (by decide)
          (by decide)
        rw [← hcount, hw, hcs, List.cons_append, tokensFrom_comment, List.count_cons_self]
        exact Nat.lt_succ_of_le (Nat.le_trans (charCount_tokensFrom_le '#' line _)
          ((List.dropWhile_sublist _).count_le '#'))
      · left
        refine ⟨_, rfl, ?_⟩
        rw [ht, List.map_cons, List.head?_cons]
        intro he
        exact hne (by rw [← Option.some.inj he, String.toList_ofList])

end ProxyFleet.Caddyfile
