import ProxyFleet.Caddyfile.Printer

namespace ProxyFleet.Caddyfile

open Text (isBlank)

theorem quotedText_quote (rest : List Char) : quotedText ('"' :: rest) = ([], rest) := by
  simp [quotedText]

theorem quotedText_escaped {c : Char} (h : c = '"' ∨ c = '\n') (rest : List Char) :
    quotedText ('\\' :: c :: rest) = (c :: (quotedText rest).1, (quotedText rest).2) := by
  simp [quotedText, h]

theorem quotedText_backslash {c : Char} (hq : c ≠ '"') (hn : c ≠ '\n') (rest : List Char) :
    quotedText ('\\' :: c :: rest) = ('\\' :: c :: (quotedText rest).1, (quotedText rest).2) := by
  simp [quotedText, hq, hn]

theorem quotedText_cons {c : Char} (hb : c ≠ '\\') (hq : c ≠ '"') (rest : List Char) :
    quotedText (c :: rest) = (c :: (quotedText rest).1, (quotedText rest).2) := by
  rw [quotedText]
  · simp [hq]
  · intro h
    exact absurd h hb
  · intro d more h
    exact absurd h hb

theorem escapeQuotes_quote (rest : List Char) :
    escapeQuotes ('"' :: rest) = '\\' :: '"' :: escapeQuotes rest := by
  simp [escapeQuotes]

theorem escapeQuotes_cons {c : Char} (h : c ≠ '"') (rest : List Char) :
    escapeQuotes (c :: rest) = c :: escapeQuotes rest := by
  simp [escapeQuotes, h]

/-- Every backslash that is not itself paired with the one before it stands before a character that
it does not escape between double quotes. -/
def paired : List Char → Bool
  | [] => true
  | ['\\'] => false
  | '\\' :: c :: rest => c ≠ '"' && c ≠ '\n' && paired rest
  | _ :: rest => paired rest

/-- What is read from an escaped key is the key exactly if its backslashes are paired; then the
closing quote ends the word. -/
theorem quotedText_escapeQuotes_of_paired (key rest : List Char) (h : paired key = true) :
    quotedText (escapeQuotes key ++ '"' :: rest) = (key, rest) := by
  fun_induction paired key with
  | case1 => exact quotedText_quote rest
  | case2 => exact absurd h (by decide)
  | case3 c more ih =>
    simp only [Bool.and_eq_true, decide_eq_true_eq] at h
    obtain ⟨⟨hq, hn⟩, h⟩ := h
    rw [escapeQuotes_cons (by decide), escapeQuotes_cons hq, List.cons_append, List.cons_append,
      quotedText_backslash hq hn, ih h]
  | case4 c more hlast hmore ih =>
    have hb : c ≠ '\\' := by
      rintro rfl
      cases more with
      | nil => exact hlast rfl rfl
      | cons d more => exact hmore d more rfl rfl
    by_cases hq : c = '"'
    · subst hq
      rw [escapeQuotes_quote, List.cons_append, List.cons_append, quotedText_escaped (Or.inl rfl),
        ih h]
    · rw [escapeQuotes_cons hq, List.cons_append, quotedText_cons hb hq, ih h]

theorem paired_of_quotedText_escapeQuotes (key rest : List Char)
    (h : (quotedText (escapeQuotes key ++ '"' :: rest)).1 = key) : paired key = true := by
  fun_induction paired key with
  | case1 => rfl
  | case2 =>
    rw [escapeQuotes_cons (by decide), List.cons_append] at h
    change (quotedText ('\\' :: '"' :: rest)).1 = _ at h
    rw [quotedText_escaped (Or.inl rfl)] at h
    simp at h
  | case3 c more ih =>
    rw [escapeQuotes_cons (by decide)] at h
    by_cases hq : c = '"'
    · subst hq
      rw [escapeQuotes_quote, List.cons_append, List.cons_append,
        quotedText_backslash (by decide) (by decide), List.cons_append, quotedText_quote] at h
      simp at h
    · rw [escapeQuotes_cons hq, List.cons_append, List.cons_append] at h
      by_cases hn : c = '\n'
      · rw [quotedText_escaped (Or.inr hn)] at h
        simp [hn] at h
      · rw [quotedText_backslash hq hn] at h
        simp only [List.cons.injEq, true_and] at h
        simp only [Bool.and_eq_true, decide_eq_true_eq]
        exact ⟨⟨hq, hn⟩, ih h⟩
  | case4 c more hlast hmore ih =>
    have hb : c ≠ '\\' := by
      rintro rfl
      cases more with
      | nil => exact hlast rfl rfl
      | cons d more => exact hmore d more rfl rfl
    by_cases hq : c = '"'
    · subst hq
      rw [escapeQuotes_quote, List.cons_append, List.cons_append,
        quotedText_escaped (Or.inl rfl)] at h
      exact ih (List.cons.inj h).2
    · rw [escapeQuotes_cons hq, List.cons_append, quotedText_cons hb hq] at h
      exact ih (List.cons.inj h).2

/-! What stands before the first `c` and what begins with it. -/

theorem not_mem_takeWhile_ne (c : Char) (cs : List Char) : c ∉ cs.takeWhile (· ≠ c) := fun hm => by
  simpa using List.all_eq_true.1 List.all_takeWhile _ hm

theorem head_dropWhile_ne (c : Char) (cs : List Char) : ∀ d ∈ (cs.dropWhile (· ≠ c)).head?, d = c := by
  intro d hd
  have hnot := List.head?_dropWhile_not (· ≠ c) cs
  rw [hd] at hnot
  simpa using hnot

theorem dropWhile_ne_append {c : Char} {front : List Char} (h : c ∉ front) (rest : List Char) :
    (front ++ rest).dropWhile (· ≠ c) = rest.dropWhile (· ≠ c) :=
  List.dropWhile_append_of_pos fun _ hd => decide_eq_true fun e => h (e ▸ hd)

theorem takeWhile_ne_append {c : Char} {front : List Char} (h : c ∉ front) (rest : List Char) :
    (front ++ rest).takeWhile (· ≠ c) = front ++ rest.takeWhile (· ≠ c) :=
  List.takeWhile_append_of_pos fun _ hd => decide_eq_true fun e => h (e ▸ hd)

/-! Words in front of what follows them. -/

theorem tokensFrom_nil (line : Nat) : tokensFrom line [] = [] := by
  rw [tokensFrom]

theorem tokensFrom_newline (line : Nat) (rest : List Char) :
    tokensFrom line ('\n' :: rest) = tokensFrom (line + 1) rest := by
  rw [tokensFrom, if_pos rfl]

theorem tokensFrom_blank {c : Char} (hc : isBlank c = true) (hn : c ≠ '\n') (line : Nat)
    (rest : List Char) : tokensFrom line (c :: rest) = tokensFrom line rest := by
  rw [tokensFrom, if_neg hn, if_pos hc]

theorem tokensFrom_comment (line : Nat) (rest : List Char) :
    tokensFrom line ('#' :: rest) = tokensFrom line (rest.dropWhile (· ≠ '\n')) := by
  rw [tokensFrom, if_neg (by decide), if_neg (by decide), if_pos rfl]

theorem tokensFrom_word {c : Char} (hc : isBlank c = false) (hh : c ≠ '#') (line : Nat)
    (rest : List Char) :
    tokensFrom line (c :: rest) = ⟨String.ofList (word c rest).1, line⟩ ::
      tokensFrom (line + (word c rest).1.count '\n') (word c rest).2 := by
  rw [tokensFrom, if_neg (by rintro rfl; exact absurd hc (by decide)), if_neg (by simp [hc]),
    if_neg hh]

def EndsWord (rest : List Char) : Prop := ∀ c ∈ rest.head?, isBlank c = true

theorem endsWord_cons {c : Char} (h : isBlank c = true) (rest : List Char) :
    EndsWord (c :: rest) := by
  intro d hd
  cases hd
  exact h

theorem takeWhile_append_of_endsWord {cs rest : List Char} (h : ∀ c ∈ cs, isBlank c = false)
    (hr : EndsWord rest) : (cs ++ rest).takeWhile (fun c => !isBlank c) = cs := by
  rw [List.takeWhile_append_of_pos (by simpa using h)]
  cases rest with
  | nil => simp
  | cons c rest => simp [hr c rfl]

theorem dropWhile_append_of_endsWord {cs rest : List Char} (h : ∀ c ∈ cs, isBlank c = false)
    (hr : EndsWord rest) : (cs ++ rest).dropWhile (fun c => !isBlank c) = rest := by
  rw [List.dropWhile_append_of_pos (by simpa using h)]
  cases rest with
  | nil => rfl
  | cons c rest => simp [hr c rfl]

theorem word_bare {c : Char} {cs rest : List Char} (hq : c ≠ '"') (hb : c ≠ backtick)
    (h : ∀ d ∈ cs, isBlank d = false) (hr : EndsWord rest) : word c (cs ++ rest) = (c :: cs, rest) := by
  simp only [word, if_neg hq, if_neg hb, bareText, takeWhile_append_of_endsWord h hr,
    dropWhile_append_of_endsWord h hr]

theorem word_verbatim {key : List Char} (h : backtick ∉ key) (rest : List Char) :
    word backtick (key ++ backtick :: rest) = (key, rest) := by
  unfold word
  rw [if_neg (by decide), if_pos rfl, verbatimText, takeWhile_ne_append h, dropWhile_ne_append h]
  simp

theorem word_quoted {key : List Char} (h : paired key = true) (rest : List Char) :
    word '"' (escapeQuotes key ++ '"' :: rest) = (key, rest) := by
  unfold word
  rw [if_pos rfl, quotedText_escapeQuotes_of_paired key rest h]

theorem needsQuotes_eq_false_iff {key : List Char} : needsQuotes key = false ↔
    key ≠ [] ∧ ∀ c ∈ key, isBlank c = false ∧ c ≠ '"' ∧ c ≠ '\'' := by
  simp only [needsQuotes, Bool.or_eq_false_iff, List.isEmpty_eq_false_iff, List.any_eq_false,
    Bool.or_eq_true, decide_eq_true_eq, not_or, Bool.not_eq_true, and_assoc, ne_eq]

/-- The keys that are read as they were written. -/
def Survives (key : List Char) : Prop :=
  if needsQuotes key then backtick ∈ key → paired key = true
  else key.head? ≠ some '#' ∧ key.head? ≠ some backtick

instance (key : List Char) : Decidable (Survives key) :=
  inferInstanceAs (Decidable (if needsQuotes key then backtick ∈ key → paired key = true
    else key.head? ≠ some '#' ∧ key.head? ≠ some backtick))

theorem paired_of_not_mem {key : List Char} (h : '\\' ∉ key) : paired key = true := by
  fun_induction paired key with
  | case1 => rfl
  | case2 => simp at h
  | case3 c more => simp at h
  | case4 c more _ _ ih => exact ih fun hm => h (List.mem_cons_of_mem _ hm)

theorem writtenKey_cases (key : List Char) :
    (needsQuotes key = false ∧ writtenKey key = key) ∨
    (needsQuotes key = true ∧ backtick ∉ key ∧ writtenKey key = backtick :: key ++ [backtick]) ∨
    (needsQuotes key = true ∧ (backtick ∉ key → paired key = true) ∧
      writtenKey key = '"' :: escapeQuotes key ++ ['"']) := by
  by_cases hq : needsQuotes key = true
  · right
    simp only [writtenKey, hq, Bool.not_true, Bool.false_eq_true, if_false]
    split
    · rename_i h
      simp only [Bool.and_eq_true, Bool.not_eq_true', List.contains_eq_mem,
        decide_eq_false_iff_not] at h
      exact Or.inl ⟨trivial, h.2, rfl⟩
    · rename_i h
      refine Or.inr ⟨trivial, fun hb => paired_of_not_mem fun hm => h ?_, rfl⟩
      simp only [Bool.and_eq_true, List.any_eq_true, Bool.not_eq_true', List.contains_eq_mem,
        decide_eq_false_iff_not]
      exact ⟨⟨_, hm, by decide⟩, hb⟩
  · left
    rw [Bool.not_eq_true] at hq
    exact ⟨hq, by simp [writtenKey, hq]⟩

/-- A key that survives is read back in front of anything that ends a word. -/
theorem tokensFrom_writtenKey {key rest : List Char} (h : Survives key) (hr : EndsWord rest)
    (line : Nat) : tokensFrom line (writtenKey key ++ rest) =
      ⟨String.ofList key, line⟩ :: tokensFrom (line + key.count '\n') rest := by
  rcases writtenKey_cases key with ⟨hq, hw⟩ | ⟨hq, hb, hw⟩ | ⟨hq, hp, hw⟩
  · obtain ⟨hne, hall⟩ := needsQuotes_eq_false_iff.1 hq
    unfold Survives at h
    rw [hq, if_neg (by simp)] at h
    cases key with
    | nil => exact absurd rfl hne
    | cons c cs =>
      have hc := hall c (by simp)
      have hcs : ∀ d ∈ cs, isBlank d = false := fun d hd => (hall d (by simp [hd])).1
      rw [hw, List.cons_append, tokensFrom_word hc.1 (by simpa using h.1),
        word_bare hc.2.1 (by simpa using h.2) hcs hr]
  · rw [hw, List.append_assoc, List.singleton_append, List.cons_append,
      tokensFrom_word (by decide) (by decide), word_verbatim hb]
  · have hpaired : paired key = true := by
      unfold Survives at h
      rw [if_pos hq] at h
      by_cases hb : backtick ∈ key
      · exact h hb
      · exact hp hb
    rw [hw, List.append_assoc, List.singleton_append, List.cons_append,
      tokensFrom_word (by decide) (by decide), word_quoted hpaired]

/-- A key that does not survive is taken for a comment or read as another word, whatever follows. -/
theorem tokensFrom_of_not_survives {key : List Char} (h : ¬Survives key) (rest : List Char)
    (line : Nat) :
    (∃ cs, key = '#' :: cs ∧ writtenKey key = key ∧ ∀ c ∈ cs, isBlank c = false) ∨
    ∃ text more, tokensFrom line (writtenKey key ++ rest) = ⟨String.ofList text, line⟩ :: more ∧
      text ≠ key := by
  rcases writtenKey_cases key with ⟨hq, hw⟩ | ⟨hq, hb, hw⟩ | ⟨hq, hp, hw⟩
  · obtain ⟨hne, hall⟩ := needsQuotes_eq_false_iff.1 hq
    unfold Survives at h
    rw [hq, if_neg (by simp)] at h
    cases key with
    | nil => exact absurd rfl hne
    | cons c cs =>
      by_cases hc : c = '#'
      · exact Or.inl ⟨cs, by rw [hc], hw, fun d hd => (hall d (by simp [hd])).1⟩
      · obtain rfl : c = backtick := by simpa [hc] using h
        refine Or.inr ⟨_, _, by rw [hw, List.cons_append, tokensFrom_word (by decide) (by decide)], ?_⟩
        -- No word between backticks has a backtick in it.
        intro he
        have hm : backtick ∈ (word backtick (cs ++ rest)).1 := by simp [he]
        unfold word at hm
        rw [if_neg (by decide), if_pos rfl, verbatimText] at hm
        exact not_mem_takeWhile_ne backtick _ hm
  · exact absurd (by simp [Survives, hq, hb]) h
  · have hnp : paired key ≠ true := fun hpaired => h (by simp [Survives, hq, hpaired])
    refine Or.inr ⟨_, _, by rw [hw, List.append_assoc, List.singleton_append,
      List.cons_append, tokensFrom_word (by decide) (by decide)], ?_⟩
    unfold word
    rw [if_pos rfl]
    exact fun he => hnp (paired_of_quotedText_escapeQuotes key rest he)

theorem tokens_writtenKey (key : String) (h : Survives key.toList) :
    tokens (String.ofList (writtenKey key.toList)) = [⟨key, 1⟩] := by
  have := tokensFrom_writtenKey h (show EndsWord [] from nofun) 1
  rw [List.append_nil, tokensFrom_nil, String.ofList_toList] at this
  unfold tokens
  rw [String.toList_ofList, this]

/-- Reading the written form of a key gives the key and nothing else. -/
def Legible (key : String) : Prop :=
  (tokens (String.ofList (writtenKey key.toList))).map (·.text) = [key]

theorem legible_iff (key : String) : Legible key ↔ Survives key.toList := by
  refine ⟨fun h => Classical.byContradiction fun hn => ?_, fun h => ?_⟩
  · unfold Legible tokens at h
    rw [String.toList_ofList, ← List.append_nil (writtenKey key.toList)] at h
    rcases tokensFrom_of_not_survives hn [] 1 with ⟨cs, hk, hw, hcs⟩ | ⟨text, more, ht, hne⟩
    · have hline : ∀ c ∈ cs, decide (c ≠ '\n') = true := fun c hc =>
        decide_eq_true fun e => absurd (hcs c hc) (by rw [e]; decide)
      have hdrop : cs.dropWhile (fun c => decide (c ≠ '\n')) = [] := by
        rw [← List.append_nil cs, List.dropWhile_append_of_pos hline, List.dropWhile_nil]
      rw [hw, hk, List.append_nil, tokensFrom_comment, hdrop, tokensFrom_nil] at h
      simp at h
    · rw [ht] at h
      simp only [List.map_cons, List.cons.injEq] at h
      exact hne (by rw [← h.1, String.toList_ofList])
  · unfold Legible
    rw [tokens_writtenKey key h]
    rfl

instance (key : String) : Decidable (Legible key) := decidable_of_iff _ (legible_iff key).symm

end ProxyFleet.Caddyfile
