import ProxyFleet.Proofs.Caddyfile.Words

/-!
Where the words of a text stand in it. A text is spelled out as words with gaps between them, which
are white space and comments. Every text can be spelled out, and what is read from it are the words of
any such spelling, each on the line on which its first character stands.
-/

namespace ProxyFleet.Caddyfile

open Text (isBlank)

/-- What follows a comment: nothing, or the end of its line. -/
def EndsLine (rest : List Char) : Prop := ∀ c ∈ rest.head?, c = '\n'

theorem endsLine_cons (rest : List Char) : EndsLine ('\n' :: rest) :=
  fun _ hc => (Option.some.inj hc).symm

/-- Characters in front of `rest` that belong to no word. -/
inductive Gap (rest : List Char) : List Char → Prop
  | nil : Gap rest []
  | blank {c : Char} {gap : List Char} (hc : isBlank c = true) (h : Gap rest gap) :
      Gap rest (c :: gap)
  | comment {note gap : List Char} (hn : '\n' ∉ note) (hl : EndsLine (gap ++ rest))
      (h : Gap rest gap) : Gap rest ('#' :: (note ++ gap))

/-- The characters `source`, between double quotes, are those of `text`. -/
inductive Escaped : (source text : List Char) → Prop
  | nil : Escaped [] []
  | plain {c : Char} {source text : List Char} (hb : c ≠ '\\') (hq : c ≠ '"')
      (h : Escaped source text) : Escaped (c :: source) (c :: text)
  | escape {c : Char} {source text : List Char} (hc : c = '"' ∨ c = '\n')
      (h : Escaped source text) : Escaped ('\\' :: c :: source) (c :: text)
  | backslash {c : Char} {source text : List Char} (hq : c ≠ '"') (hn : c ≠ '\n')
      (h : Escaped source text) : Escaped ('\\' :: c :: source) ('\\' :: c :: text)

/-- The characters `source` in front of `rest` are a word that reads `text`. At the end of a text
the closing quote may be missing, and then a backslash may be the last character. -/
inductive Spells : (source text rest : List Char) → Prop
  | bare {c : Char} {cs rest : List Char} (hc : isBlank c = false) (hh : c ≠ '#') (hq : c ≠ '"')
      (hb : c ≠ backtick) (hcs : ∀ d ∈ cs, isBlank d = false) (hr : EndsWord rest) :
      Spells (c :: cs) (c :: cs) rest
  | verbatim {text rest : List Char} (h : backtick ∉ text) :
      Spells (backtick :: (text ++ [backtick])) text rest
  | verbatimToEnd {text : List Char} (h : backtick ∉ text) : Spells (backtick :: text) text []
  | quoted {source text rest : List Char} (h : Escaped source text) :
      Spells ('"' :: (source ++ ['"'])) text rest
  | quotedToEnd {source text : List Char} (h : Escaped source text) :
      Spells ('"' :: source) text []
  | quotedToBackslash {source text : List Char} (h : Escaped source text) :
      Spells ('"' :: (source ++ ['\\'])) (text ++ ['\\']) []

structure Occurrence where
  gap : List Char
  source : List Char
  text : String

/-- The text is made of these words and the gaps in front of them; a gap may follow the last. -/
inductive SpelledOut : List Char → List Occurrence → Prop
  | last {gap : List Char} (hg : Gap [] gap) : SpelledOut gap []
  | word {gap source text rest : List Char} {os : List Occurrence} (hg : Gap (source ++ rest) gap)
      (hs : Spells source text rest) (h : SpelledOut rest os) :
      SpelledOut (gap ++ (source ++ rest)) (⟨gap, source, String.ofList text⟩ :: os)

def spelling (os : List Occurrence) : List Char := os.flatMap fun o => o.gap ++ o.source

theorem endsWord_nil : EndsWord [] := by simp [EndsWord]

theorem endsWord_space (rest : List Char) : EndsWord (' ' :: rest) := endsWord_cons (by decide) rest

theorem gap_space (rest : List Char) : Gap rest [' '] := .blank (by decide) .nil

theorem spells_char {c : Char} {rest : List Char}
    (hc : isBlank c = false ∧ c ≠ '#' ∧ c ≠ '"' ∧ c ≠ backtick) (hr : EndsWord rest) :
    Spells [c] [c] rest :=
  .bare hc.1 hc.2.1 hc.2.2.1 hc.2.2.2 (List.forall_mem_nil _) hr

/-! What is read from a text that is spelled out. -/

theorem dropWhile_note {note rest : List Char} (hn : '\n' ∉ note) (hr : EndsLine rest) :
    (note ++ rest).dropWhile (· ≠ '\n') = rest := by
  rw [dropWhile_ne_append hn]
  cases rest with
  | nil => rfl
  | cons c rest =>
    obtain rfl := hr c rfl
    rfl

theorem Gap.tokensFrom {rest gap : List Char} (h : Gap rest gap) (line : Nat) :
    tokensFrom line (gap ++ rest) = tokensFrom (line + gap.count '\n') rest := by
  induction h generalizing line with
  | nil => rfl
  | @blank c gap hc _ ih =>
    by_cases hn : c = '\n'
    · subst hn
      rw [List.cons_append, tokensFrom_newline, ih, List.count_cons_self]
      congr 1
      omega
    · rw [List.cons_append, tokensFrom_blank hc hn, ih, List.count_cons_of_ne hn]
  | @comment note gap hn hl _ ih =>
    rw [List.cons_append, List.append_assoc, tokensFrom_comment, dropWhile_note hn hl, ih,
      List.count_cons_of_ne (by decide), List.count_append, List.count_eq_zero.2 hn, Nat.zero_add]

theorem Escaped.quotedText {source text : List Char} (h : Escaped source text)
    (rest : List Char) : quotedText (source ++ rest) =
      (text ++ (quotedText rest).1, (quotedText rest).2) := by
  induction h with
  | nil => rfl
  | plain hb hq _ ih => rw [List.cons_append, quotedText_cons hb hq, ih]; rfl
  | escape hc _ ih => rw [List.cons_append, List.cons_append, quotedText_escaped hc, ih]; rfl
  | backslash hq hn _ ih =>
    rw [List.cons_append, List.cons_append, quotedText_backslash hq hn, ih]
    rfl

/-- Escapes neither add line breaks nor take any away. -/
theorem Escaped.count_newline {source text : List Char} (h : Escaped source text) :
    text.count '\n' = source.count '\n' := by
  induction h with
  | nil => rfl
  | plain _ _ _ ih => rw [List.count_cons, List.count_cons, ih]
  | escape _ _ ih =>
    rw [List.count_cons, List.count_cons_of_ne (by decide), List.count_cons, ih]
  | backslash _ _ _ ih =>
    rw [List.count_cons_of_ne (by decide), List.count_cons, List.count_cons_of_ne (by decide),
      List.count_cons, ih]

theorem Spells.count_newline {source text rest : List Char} (h : Spells source text rest) :
    text.count '\n' = source.count '\n' := by
  cases h with
  | bare => rfl
  | verbatim => simp [backtick]
  | verbatimToEnd => simp [backtick]
  | quoted h => simp [h.count_newline]
  | quotedToEnd h => simp [h.count_newline]
  | quotedToBackslash h => simp [h.count_newline]

/-- A word is read from the characters that spell it, and from no more. -/
theorem Spells.word {source text rest : List Char} (h : Spells source text rest) :
    ∃ c cs, source = c :: cs ∧ isBlank c = false ∧ c ≠ '#' ∧
      word c (cs ++ rest) = (text, rest) := by
  cases h with
  | bare hc hh hq hb hcs hr => exact ⟨_, _, rfl, hc, hh, word_bare hq hb hcs hr⟩
  | verbatim h =>
    refine ⟨_, _, rfl, by decide, by decide, ?_⟩
    rw [List.append_assoc, List.singleton_append]
    exact word_verbatim h rest
  | verbatimToEnd h =>
    refine ⟨_, _, rfl, by decide, by decide, ?_⟩
    unfold Caddyfile.word
    rw [if_neg (by decide), if_pos rfl, verbatimText, takeWhile_ne_append h, dropWhile_ne_append h]
    simp
  | quoted h =>
    refine ⟨_, _, rfl, by decide, by decide, ?_⟩
    unfold Caddyfile.word
    rw [if_pos rfl, List.append_assoc, List.singleton_append, h.quotedText, quotedText_quote,
      List.append_nil]
  | quotedToEnd h =>
    refine ⟨_, _, rfl, by decide, by decide, ?_⟩
    unfold Caddyfile.word
    rw [if_pos rfl, h.quotedText]
    simp [Caddyfile.quotedText]
  | quotedToBackslash h =>
    refine ⟨_, _, rfl, by decide, by decide, ?_⟩
    unfold Caddyfile.word
    rw [if_pos rfl, List.append_nil, h.quotedText]
    rfl

theorem Spells.tokensFrom {source text rest : List Char} (h : Spells source text rest)
    (line : Nat) : tokensFrom line (source ++ rest) =
      ⟨String.ofList text, line⟩ :: tokensFrom (line + source.count '\n') rest := by
  have hcount := h.count_newline
  obtain ⟨c, cs, rfl, hc, hh, hw⟩ := h.word
  rw [List.cons_append, tokensFrom_word hc hh, hw, hcount]

/-- The words are read, each on the line to which the text ahead of it goes. -/
theorem SpelledOut.tokensFrom {cs : List Char} {os : List Occurrence} (h : SpelledOut cs os)
    (line : Nat) : tokensFrom line cs = os.mapIdx fun i o =>
      ⟨o.text, line + (spelling (os.take i) ++ o.gap).count '\n'⟩ := by
  induction h generalizing line with
  | last hg =>
    have hread := hg.tokensFrom line
    rw [List.append_nil, tokensFrom_nil] at hread
    exact hread
  | @word gap source text rest os hg hs _ ih =>
    rw [hg.tokensFrom, hs.tokensFrom, ih, List.mapIdx_cons]
    congr 2
    funext i o
    simp only [List.take_succ_cons, spelling, List.flatMap_cons, List.count_append]
    congr 1
    omega

theorem SpelledOut.spelling_prefix {cs : List Char} {os : List Occurrence} (h : SpelledOut cs os) :
    spelling os <+: cs := by
  induction h with
  | last => exact List.nil_prefix
  | @word gap source text rest os _ _ _ ih =>
    rw [spelling, List.flatMap_cons, List.append_assoc]
    exact (List.prefix_append_right_inj gap).2 ((List.prefix_append_right_inj source).2 ih)

/-- A word has as many line breaks as the characters that spell it. -/
theorem SpelledOut.count_newline {cs : List Char} {os : List Occurrence} (h : SpelledOut cs os) :
    ∀ o ∈ os, o.text.toList.count '\n' = o.source.count '\n' := by
  induction h with
  | last => exact List.forall_mem_nil _
  | word _ hs _ ih =>
    refine List.forall_mem_cons.2 ⟨?_, ih⟩
    rw [String.toList_ofList]
    exact hs.count_newline

/-- The second of two words starts as many lines below the end of the first as the gap between them
has line breaks. -/
theorem SpelledOut.tokens_pair {text : String} {front back : List Occurrence} {a b : Occurrence}
    (h : SpelledOut text.toList (front ++ a :: b :: back)) : ∃ ts s t more,
      tokens text = ts ++ s :: t :: more ∧ ts.map (·.text) = front.map (·.text) ∧
        s.text = a.text ∧ t.text = b.text ∧
          t.line = s.line + s.text.toList.count '\n' + b.gap.count '\n' := by
  have hread := h.tokensFrom 1
  rw [List.mapIdx_append, List.mapIdx_cons, List.mapIdx_cons] at hread
  refine ⟨_, _, _, _, hread, ?_, rfl, rfl, ?_⟩
  · refine List.ext_getElem? fun i => ?_
    rw [List.getElem?_map, List.getElem?_mapIdx, List.getElem?_map, Option.map_map]
    rfl
  · have hcount := h.count_newline a (by simp)
    have hfront : (front ++ a :: b :: back).take (0 + front.length) = front := by simp
    have hnext : (front ++ a :: b :: back).take (0 + 1 + front.length) = front ++ [a] := by
      rw [Nat.zero_add, Nat.add_comm, List.take_length_add_append]
      rfl
    dsimp only
    rw [hfront, hnext, hcount]
    simp [spelling]
    omega

/-! Every text can be spelled out. -/

/-- Behind the opening quote, the characters of a word go to the closing quote or to the end, where
they may stop in front of a backslash. -/
theorem exists_escaped (cs : List Char) : ∃ source text tail, Escaped source text ∧
    cs = source ++ tail ∧ (tail = [] ∨ tail = ['\\'] ∨ ∃ rest, tail = '"' :: rest) := by
  fun_induction quotedText cs with
  | case1 => exact ⟨[], [], [], .nil, rfl, Or.inl rfl⟩
  | case2 => exact ⟨[], [], ['\\'], .nil, rfl, Or.inr (Or.inl rfl)⟩
  | case3 c rest _ _ _ ih =>
    obtain ⟨source, text, tail, he, rfl, htail⟩ := ih
    by_cases hc : c = '"' ∨ c = '\n'
    · exact ⟨_, _, tail, .escape hc he, rfl, htail⟩
    · rw [not_or] at hc
      exact ⟨_, _, tail, .backslash hc.1 hc.2 he, rfl, htail⟩
  | case4 rest => exact ⟨[], [], '"' :: rest, .nil, rfl, Or.inr (Or.inr ⟨rest, rfl⟩)⟩
  | case5 c rest hlast hmore hq _ _ _ ih =>
    obtain ⟨source, text, tail, he, rfl, htail⟩ := ih
    have hb : c ≠ '\\' := by
      rintro rfl
      cases hs : source ++ tail with
      | nil => exact hlast rfl hs
      | cons d more => exact hmore d more rfl hs
    exact ⟨_, _, tail, .plain hb hq he, rfl, htail⟩

theorem exists_spells_quoted (cs : List Char) :
    ∃ source text rest, '"' :: cs = source ++ rest ∧ Spells source text rest := by
  obtain ⟨source, text, tail, he, rfl, rfl | rfl | ⟨rest, rfl⟩⟩ := exists_escaped cs
  · exact ⟨_, _, [], by simp, .quotedToEnd he⟩
  · exact ⟨_, _, [], by simp, .quotedToBackslash he⟩
  · exact ⟨_, _, rest, by simp, .quoted he⟩

theorem exists_spells_verbatim (cs : List Char) :
    ∃ source text rest, backtick :: cs = source ++ rest ∧ Spells source text rest := by
  have hmem := not_mem_takeWhile_ne backtick cs
  have hhead := head_dropWhile_ne backtick cs
  have hsplit := List.takeWhile_append_dropWhile (p := (· ≠ backtick)) (l := cs)
  cases hd : cs.dropWhile (· ≠ backtick) with
  | nil =>
    rw [hd, List.append_nil] at hsplit
    rw [hsplit] at hmem
    exact ⟨_, _, [], by rw [List.append_nil], .verbatimToEnd hmem⟩
  | cons d rest =>
    obtain rfl : d = backtick := hhead d (by rw [hd]; rfl)
    refine ⟨_, _, rest, ?_, .verbatim hmem⟩
    rw [List.cons_append, List.append_assoc, List.singleton_append, ← hd, hsplit]

theorem exists_spells_bare {c : Char} (hc : isBlank c = false) (hh : c ≠ '#') (hq : c ≠ '"')
    (hb : c ≠ backtick) (cs : List Char) :
    ∃ source text rest, c :: cs = source ++ rest ∧ Spells source text rest := by
  have hword : ∀ d ∈ cs.takeWhile fun d => !isBlank d, isBlank d = false := fun d hd => by
    simpa using List.all_eq_true.1 List.all_takeWhile d hd
  have hends : EndsWord (cs.dropWhile fun d => !isBlank d) := by
    intro d hd
    have hnot := List.head?_dropWhile_not (fun d => !isBlank d) cs
    rw [hd] at hnot
    simpa using hnot
  exact ⟨_, _, _, by rw [List.cons_append, List.takeWhile_append_dropWhile],
    .bare hc hh hq hb hword hends⟩

theorem exists_spells {c : Char} (hc : isBlank c = false) (hh : c ≠ '#') (cs : List Char) :
    ∃ source text rest, c :: cs = source ++ rest ∧ Spells source text rest := by
  by_cases hq : c = '"'
  · subst hq
    exact exists_spells_quoted cs
  · by_cases hb : c = backtick
    · subst hb
      exact exists_spells_verbatim cs
    · exact exists_spells_bare hc hh hq hb cs

theorem SpelledOut.widen {cs : List Char} {os : List Occurrence} (h : SpelledOut cs os)
    (front : List Char)
    (hfront : ∀ gap rest, cs = gap ++ rest → Gap rest gap → Gap rest (front ++ gap)) :
    ∃ os, SpelledOut (front ++ cs) os := by
  cases h with
  | last hg => exact ⟨_, .last (hfront cs [] (List.append_nil cs).symm hg)⟩
  | word hg hs h =>
    rw [← List.append_assoc]
    exact ⟨_, .word (hfront _ _ rfl hg) hs h⟩

theorem exists_spelledOut (cs : List Char) : ∃ os, SpelledOut cs os := by
  -- The words are those that the reader finds; the line it starts on does not matter.
  generalize 1 = line
  fun_induction tokensFrom line cs with
  | case1 => exact ⟨[], .last .nil⟩
  | case2 line rest ih =>
    obtain ⟨os, h⟩ := ih
    exact h.widen ['\n'] fun gap rest _ hg => .blank Text.isBlank_newline hg
  | case3 line c rest _ hc ih =>
    obtain ⟨os, h⟩ := ih
    exact h.widen [c] fun gap rest _ hg => .blank hc hg
  | case4 line rest _ _ ih =>
    obtain ⟨os, h⟩ := ih
    have hsplit := List.takeWhile_append_dropWhile (p := (· ≠ '\n')) (l := rest)
    have hn := not_mem_takeWhile_ne '\n' rest
    have hl : EndsLine (rest.dropWhile (· ≠ '\n')) := head_dropWhile_ne '\n' rest
    have hspelled := h.widen ('#' :: rest.takeWhile (· ≠ '\n')) fun gap behind he hg =>
      .comment hn (he ▸ hl) hg
    rwa [List.cons_append, hsplit] at hspelled
  | case5 line c rest _ hc hh text ih =>
    obtain ⟨source, read, behind, hcs, hs⟩ := exists_spells (by simpa using hc) hh rest
    obtain ⟨d, ds, rfl, -, -, hw⟩ := hs.word
    obtain ⟨rfl, hrest⟩ := List.cons.inj hcs
    rw [show rest = ds ++ behind from hrest, hw] at ih
    obtain ⟨os, h⟩ := ih
    rw [hcs]
    exact ⟨_, .word .nil hs h⟩

end ProxyFleet.Caddyfile
