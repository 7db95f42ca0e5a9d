import ProxyFleet.Proofs.Caddyfile.Reader

/-!
Texts put one behind the other. A text of whole lines either leaves nothing open, and then what
follows is read as if it stood alone, or it ends within a word between quotes or backticks that goes
on in what follows.
-/

namespace ProxyFleet.Caddyfile

open Text (isBlank)

def texts (cs : List Char) : List String := (tokensFrom 1 cs).map (·.text)

theorem map_text_tokensFrom (line : Nat) (cs : List Char) :
    (tokensFrom line cs).map (·.text) = texts cs := by
  have h : ∀ n m : Nat, (tokensFrom n cs).map (·.text) = (tokensFrom m cs).map (·.text) := by
    intro n m
    fun_induction tokensFrom n cs generalizing m with
    | case1 => rw [tokensFrom_nil]
    | case2 n rest ih => rw [tokensFrom_newline, ih (m + 1)]
    | case3 n c rest hn hc ih => rw [tokensFrom_blank hc hn, ih m]
    | case4 n rest hn hc ih => rw [tokensFrom_comment, ih m]
    | case5 n c rest hn hc hh text ih =>
      rw [tokensFrom_word (by simpa using hc) hh, List.map_cons, List.map_cons, ih]
  exact h line 1

/-- Nothing of what follows becomes part of a word or a comment of the text. -/
def Closed (cs : List Char) : Prop := ∀ rest, texts (cs ++ rest) = texts cs ++ texts rest

theorem Closed.append {cs ds : List Char} (hc : Closed cs) (hd : Closed ds) : Closed (cs ++ ds) := by
  intro rest
  rw [List.append_assoc, hc, hd, hc, List.append_assoc]

theorem Closed.of_append {cs ds : List Char} (hc : Closed cs) (h : Closed (cs ++ ds)) :
    Closed ds := by
  intro rest
  have hrest := h rest
  rw [List.append_assoc, hc, hc, List.append_assoc] at hrest
  exact List.append_cancel_left hrest

def WholeLines (cs : List Char) : Prop := ∀ c ∈ cs.getLast?, c = '\n'

theorem WholeLines.tail {c : Char} {cs : List Char} (h : WholeLines (c :: cs)) : WholeLines cs := by
  cases cs with
  | nil => nofun
  | cons d cs => exact h

theorem WholeLines.drop {cs ds : List Char} (h : WholeLines (cs ++ ds)) : WholeLines ds := by
  induction cs with
  | nil => exact h
  | cons c cs ih => exact ih h.tail

theorem WholeLines.count_pos {cs : List Char} (h : WholeLines cs) (hne : cs ≠ []) :
    0 < cs.count '\n' := by
  rw [List.count_pos_iff, ← h _ (List.getLast?_eq_some_getLast hne)]
  exact List.getLast_mem hne

theorem count_newline_quotedText (cs : List Char) :
    (quotedText cs).1.count '\n' + (quotedText cs).2.count '\n' = cs.count '\n' := by
  fun_induction quotedText cs with
  | case1 => rfl
  | case2 => rfl
  | case3 c rest text after h ih =>
    rw [h] at ih
    dsimp only at ih ⊢
    split <;> simp [List.count_cons, ← ih] <;> omega
  | case4 rest => simp
  | case5 c rest _ _ _ text after h ih =>
    rw [h] at ih
    simp only [List.count_cons] at ih ⊢
    omega

theorem quotedText_suffix (cs : List Char) : (quotedText cs).2 <:+ cs := by
  fun_induction quotedText cs with
  | case1 => exact List.suffix_refl []
  | case2 => exact List.nil_suffix
  | case3 c rest text after h ih =>
    rw [h] at ih
    exact ih.trans ((List.suffix_cons c rest).trans (List.suffix_cons '\\' (c :: rest)))
  | case4 rest => exact List.suffix_cons '"' rest
  | case5 c rest _ _ _ text after h ih =>
    rw [h] at ih
    exact ih.trans (List.suffix_cons c rest)

/-- A word that is open at the start of whole lines ends within them or goes on behind them. -/
def EndsOrGoesOn (scan : List Char → List Char × List Char) (cs : List Char) : Prop :=
  ((scan cs).2 ≠ [] ∧ ∀ rest, scan (cs ++ rest) = ((scan cs).1, (scan cs).2 ++ rest)) ∨
    ∀ rest, scan (cs ++ rest) = ((scan cs).1 ++ (scan rest).1, (scan rest).2)

theorem quotedText_endsOrGoesOn {cs : List Char} (h : WholeLines cs) :
    EndsOrGoesOn quotedText cs := by
  fun_induction quotedText cs with
  | case1 => exact Or.inr fun rest => rfl
  | case2 => exact absurd (h '\\' rfl) (by decide)
  | case3 c rest text after hr ih =>
    have hq : ∀ more, quotedText ('\\' :: c :: more) =
        (if c = '"' || c = '\n' then c :: (quotedText more).1 else '\\' :: c :: (quotedText more).1,
          (quotedText more).2) := by
      intro more
      rw [quotedText]
    rcases ih h.tail.tail with ⟨hne, happ⟩ | happ
    · refine Or.inl ⟨by rw [hq]; exact hne, fun more => ?_⟩
      rw [List.cons_append, List.cons_append, hq, happ, hq]
    · refine Or.inr fun more => ?_
      rw [List.cons_append, List.cons_append, hq, happ, hq]
      split <;> rfl
  | case4 rest =>
    refine Or.inl ⟨?_, fun more => ?_⟩
    · rw [quotedText_quote]
      rintro rfl
      exact absurd (h '"' rfl) (by decide)
    · rw [List.cons_append, quotedText_quote, quotedText_quote]
  | case5 c rest h1 h2 hq text after hr ih =>
    have hb : c ≠ '\\' := by
      rintro rfl
      cases rest with
      | nil => exact h1 rfl rfl
      | cons d rest => exact h2 d rest rfl rfl
    rcases ih h.tail with ⟨hne, happ⟩ | happ
    · refine Or.inl ⟨by rw [quotedText_cons hb hq]; exact hne, fun more => ?_⟩
      rw [List.cons_append, quotedText_cons hb hq, happ, quotedText_cons hb hq]
    · refine Or.inr fun more => ?_
      rw [List.cons_append, quotedText_cons hb hq, happ, quotedText_cons hb hq]
      rfl

theorem verbatimText_backtick (rest : List Char) :
    verbatimText (backtick :: rest) = ([], rest) := by
  simp [verbatimText]

theorem verbatimText_cons {c : Char} (h : c ≠ backtick) (rest : List Char) :
    verbatimText (c :: rest) = (c :: (verbatimText rest).1, (verbatimText rest).2) := by
  simp [verbatimText, h]

theorem verbatimText_endsOrGoesOn {cs : List Char} (h : WholeLines cs) :
    EndsOrGoesOn verbatimText cs := by
  induction cs with
  | nil => exact Or.inr fun rest => rfl
  | cons c cs ih =>
    by_cases hc : c = backtick
    · subst hc
      refine Or.inl ⟨?_, fun rest => ?_⟩
      · rw [verbatimText_backtick]
        rintro rfl
        exact absurd (h backtick rfl) (by decide)
      · rw [List.cons_append, verbatimText_backtick, verbatimText_backtick]
    · rcases ih h.tail with ⟨hne, happ⟩ | happ
      · refine Or.inl ⟨by rw [verbatimText_cons hc]; exact hne, fun rest => ?_⟩
        rw [List.cons_append, verbatimText_cons hc, happ, verbatimText_cons hc]
      · refine Or.inr fun rest => ?_
        rw [List.cons_append, verbatimText_cons hc, happ, verbatimText_cons hc]
        rfl

/-- Whole lines that go on behind a bare word have the end of the word in them. -/
theorem dropWhile_ne_nil {c : Char} {cs : List Char} (hc : c ≠ '\n') (h : WholeLines (c :: cs))
    {p : Char → Bool} (hp : p '\n' = false) : cs.dropWhile p ≠ [] := by
  intro hnil
  have hall : ∀ x ∈ cs, p x = true := by
    rw [← List.takeWhile_append_dropWhile (p := p) (l := cs), hnil, List.append_nil]
    exact List.all_eq_true.1 List.all_takeWhile
  cases cs with
  | nil => exact hc (h c rfl)
  | cons d cs =>
    have hlast := h _ (List.getLast?_eq_some_getLast (List.cons_ne_nil d cs))
    have hmem := hall _ (List.getLast_mem (List.cons_ne_nil d cs))
    rw [hlast, hp] at hmem
    cases hmem

theorem ne_newline_of_isBlank {c : Char} (hc : isBlank c = false) : c ≠ '\n' := by
  rintro rfl
  exact absurd hc (by decide)

/-- Where a scan stops within a text, what follows the text has no part in it. -/
theorem span_append {p : Char → Bool} {cs : List Char} (h : cs.dropWhile p ≠ [])
    (rest : List Char) : (cs ++ rest).takeWhile p = cs.takeWhile p ∧
      (cs ++ rest).dropWhile p = cs.dropWhile p ++ rest := by
  have hlen : (cs.takeWhile p).length ≠ cs.length := by
    have hsplit := congrArg List.length (List.takeWhile_append_dropWhile (p := p) (l := cs))
    rw [List.length_append] at hsplit
    have hpos := List.length_pos_iff.2 h
    omega
  exact ⟨by rw [List.takeWhile_append, if_neg hlen],
    by rw [List.dropWhile_append, if_neg (by simpa using h)]⟩

theorem word_suffix (c : Char) (rest : List Char) : (word c rest).2 <:+ rest := by
  unfold word
  split
  · exact quotedText_suffix rest
  · split
    · exact (List.drop_suffix 1 _).trans (List.dropWhile_suffix _)
    · exact List.dropWhile_suffix _

theorem count_newline_word {c : Char} (hc : isBlank c = false) (rest : List Char) :
    (word c rest).1.count '\n' + (word c rest).2.count '\n' = rest.count '\n' := by
  have hn := ne_newline_of_isBlank hc
  unfold word
  split
  · exact count_newline_quotedText rest
  · split
    · have hsplit := congrArg (List.count '\n')
        (List.takeWhile_append_dropWhile (p := (· ≠ backtick)) (l := rest))
      rw [List.count_append] at hsplit
      unfold verbatimText
      rw [← hsplit]
      cases hd : rest.dropWhile (· ≠ backtick) with
      | nil => rfl
      | cons d more =>
        -- The closing backtick is dropped, and it is no line break.
        have hb : d = backtick := by
          have hnot := List.head?_dropWhile_not (· ≠ backtick) rest
          rw [hd] at hnot
          simpa using hnot
        rw [hb, List.drop_one, List.tail_cons, List.count_cons_of_ne (by decide)]
    · have hsplit := congrArg (List.count '\n')
        (List.takeWhile_append_dropWhile (p := fun x => !isBlank x) (l := rest))
      rw [List.count_append] at hsplit
      unfold bareText
      rw [← hsplit]
      dsimp only
      rw [List.count_cons_of_ne hn]

/-- A word that begins in whole lines ends within them, or it is between quotes or backticks and
goes on behind them. -/
theorem word_append {c : Char} {cs : List Char} (hc : isBlank c = false)
    (h : WholeLines (c :: cs)) :
    ((word c cs).2 ≠ [] ∧ ∀ rest, word c (cs ++ rest) = ((word c cs).1, (word c cs).2 ++ rest)) ∨
    ∃ scan, (scan = quotedText ∨ scan = verbatimText) ∧
      ∀ rest, word c (cs ++ rest) = ((word c cs).1 ++ (scan rest).1, (scan rest).2) := by
  by_cases hq : c = '"'
  · have hw : ∀ more, word c more = quotedText more := fun more => by rw [word, if_pos hq]
    simp only [hw]
    exact (quotedText_endsOrGoesOn h.tail).imp_right fun happ => ⟨_, Or.inl rfl, happ⟩
  · by_cases hb : c = backtick
    · have hw : ∀ more, word c more = verbatimText more := fun more => by
        unfold word
        rw [if_neg hq, if_pos hb]
      simp only [hw]
      exact (verbatimText_endsOrGoesOn h.tail).imp_right fun happ => ⟨_, Or.inr rfl, happ⟩
    · left
      have hne := dropWhile_ne_nil (ne_newline_of_isBlank hc) h (p := fun x => !isBlank x) rfl
      have hw : ∀ more, word c more = (c :: (bareText more).1, (bareText more).2) := fun more => by
        unfold word
        rw [if_neg hq, if_neg hb]
      simp only [hw, bareText]
      refine ⟨hne, fun rest => ?_⟩
      obtain ⟨htake, hdrop⟩ := span_append hne rest
      rw [htake, hdrop]

/-- Behind a comment there are still whole lines, and all line breaks. -/
theorem comment_rest {cs : List Char} (h : WholeLines ('#' :: cs)) :
    (cs.dropWhile (· ≠ '\n')).count '\n' = cs.count '\n' ∧
      WholeLines (cs.dropWhile (· ≠ '\n')) := by
  have hsplit := List.takeWhile_append_dropWhile (p := (· ≠ '\n')) (l := cs)
  have hzero : (cs.takeWhile (· ≠ '\n')).count '\n' = 0 :=
    List.count_eq_zero.2 (not_mem_takeWhile_ne '\n' cs)
  constructor
  · have hcount := congrArg (List.count '\n') hsplit
    rwa [List.count_append, hzero, Nat.zero_add] at hcount
  · rw [← hsplit] at h
    exact h.tail.drop

/-- The words of whole lines end before the line behind them, or the last of them goes on there. -/
theorem tokensFrom_append {cs : List Char} (h : WholeLines cs) (line : Nat) :
    (∃ ts, (∀ rest, tokensFrom line (cs ++ rest) =
        ts ++ tokensFrom (line + cs.count '\n') rest) ∧
      ∀ t ∈ ts, t.line + t.text.toList.count '\n' < line + cs.count '\n') ∨
    ∃ ts l first scan, (scan = quotedText ∨ scan = verbatimText) ∧
      ∀ rest, ∃ l', tokensFrom line (cs ++ rest) =
        ts ++ ⟨String.ofList (first ++ (scan rest).1), l⟩ :: tokensFrom l' (scan rest).2 := by
  fun_induction tokensFrom line cs with
  | case1 line => exact Or.inl ⟨[], fun rest => rfl, List.forall_mem_nil _⟩
  | case2 line cs ih =>
    simp only [List.cons_append, tokensFrom_newline, List.count_cons_self]
    simp only [Nat.add_right_comm, ← Nat.add_assoc] at ih ⊢
    exact ih h.tail
  | case3 line c cs hn hc ih =>
    simp only [List.cons_append, tokensFrom_blank hc hn, List.count_cons_of_ne hn]
    exact ih h.tail
  | case4 line cs hn hc ih =>
    have hne := dropWhile_ne_nil (p := (· ≠ '\n')) hn h rfl
    obtain ⟨hcount, hwhole⟩ := comment_rest h
    have hrest := ih hwhole
    simp only [List.cons_append, tokensFrom_comment, (span_append hne _).2,
      List.count_cons_of_ne hn, ← hcount]
    exact hrest
  | case5 line c cs hn hc hh text ih =>
    have hc : isBlank c = false := by simpa using hc
    have hcount := count_newline_word hc cs
    have hwhole : WholeLines (word c cs).2 := by
      obtain ⟨used, hused⟩ := word_suffix c cs
      rw [← hused] at h
      exact h.tail.drop
    simp only [List.cons_append, tokensFrom_word hc hh, List.count_cons_of_ne hn]
    rcases word_append hc h with ⟨hne, happ⟩ | ⟨scan, hscan, happ⟩
    · simp only [happ]
      have hpos := hwhole.count_pos hne
      rcases ih hwhole with ⟨ts, hts, hend⟩ | ⟨ts, l, first, scan, hscan, hts⟩
      · refine Or.inl ⟨⟨String.ofList (word c cs).1, line⟩ :: ts, fun rest => ?_, ?_⟩
        · rw [hts, ← hcount, Nat.add_assoc]
          rfl
        · rw [List.forall_mem_cons]
          refine ⟨?_, fun t ht => ?_⟩
          · show line + (String.ofList (word c cs).1).toList.count '\n' < line + cs.count '\n'
            rw [String.toList_ofList]
            omega
          · have hlt : _ < line + (word c cs).1.count '\n' + _ := hend t ht
            omega
      · refine Or.inr ⟨⟨String.ofList (word c cs).1, line⟩ :: ts, l, first, scan, hscan,
          fun rest => ?_⟩
        obtain ⟨l', hl⟩ := hts rest
        exact ⟨l', by rw [hl]; rfl⟩
    · refine Or.inr ⟨[], line, (word c cs).1, scan, hscan, fun rest =>
        ⟨line + ((word c cs).1 ++ (scan rest).1).count '\n', ?_⟩⟩
      rw [happ]
      rfl

end ProxyFleet.Caddyfile
