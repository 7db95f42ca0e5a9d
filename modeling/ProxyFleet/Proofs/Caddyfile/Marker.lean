import ProxyFleet.Proofs.Caddyfile.SelfContained

/-!
A word that shows what a text does to what follows it: a double quote between two long runs of one
letter. It is written between backticks. Behind a text that leaves a quote open it is cut in two at
its own quote, and behind one that leaves a backtick open it is read with the closing backtick.
-/

namespace ProxyFleet.Caddyfile

open Text (isBlank)

def mark (n : Nat) : List Char := List.replicate n 'a' ++ '"' :: List.replicate n 'a'

def marker (n : Nat) : String := String.ofList (mark n)

theorem mem_mark {n : Nat} {c : Char} (h : c ∈ mark n) : c = 'a' ∨ c = '"' := by
  unfold mark at h
  rw [List.mem_append, List.mem_cons] at h
  rcases h with h | h | h
  · exact Or.inl (List.eq_of_mem_replicate h)
  · exact Or.inr h
  · exact Or.inl (List.eq_of_mem_replicate h)

theorem backtick_not_mem_mark (n : Nat) : backtick ∉ mark n := by
  intro h
  rcases mem_mark h with h | h <;> exact absurd h (by decide)

theorem newline_not_mem_mark (n : Nat) : '\n' ∉ mark n := by
  intro h
  rcases mem_mark h with h | h <;> exact absurd h (by decide)

theorem isBlank_of_mem_mark {n : Nat} {c : Char} (h : c ∈ mark n) : isBlank c = false := by
  rcases mem_mark h with rfl | rfl <;> decide

theorem length_mark (n : Nat) : (mark n).length = 2 * n + 1 := by
  unfold mark
  rw [List.length_append, List.length_cons, List.length_replicate]
  omega

theorem count_mark (n : Nat) : (mark n).count 'a' = 2 * n := by
  unfold mark
  rw [List.count_append, List.count_cons_of_ne (by decide), List.count_replicate_self]
  omega

theorem needsQuotes_mark (n : Nat) : needsQuotes (mark n) = true := by
  rw [← Bool.not_eq_false, needsQuotes_eq_false_iff]
  rintro ⟨-, hall⟩
  exact (hall '"' (by simp [mark])).2.1 rfl

theorem writtenKey_mark (n : Nat) : writtenKey (mark n) = backtick :: mark n ++ [backtick] := by
  have hq : ((mark n).any fun c => c = '"' || c = '\\') = true :=
    List.any_eq_true.2 ⟨'"', by simp [mark], rfl⟩
  have hb : (mark n).contains backtick = false := by
    simpa using backtick_not_mem_mark n
  rw [writtenKey, needsQuotes_mark, hq, hb]
  rfl

theorem legible_marker (n : Nat) : Legible (marker n) := by
  rw [legible_iff, marker, String.toList_ofList, Survives, if_pos (needsQuotes_mark n)]
  exact fun h => absurd h (backtick_not_mem_mark n)

theorem marker_ne {n : Nat} {s : String} (h : '"' ∉ s.toList) : marker n ≠ s := by
  rintro rfl
  exact h (by simp [marker, mark])

theorem length_text_le_of_mem {line : Nat} {cs : List Char} {t : Token}
    (h : t ∈ tokensFrom line cs) : t.text.toList.length ≤ cs.length := by
  have hmem := List.mem_map_of_mem (f := (·.text)) h
  have hpart := List.sublist_flatten_of_mem (List.mem_map_of_mem (f := String.toList) hmem)
  exact (hpart.trans (flatMap_tokensFrom_sublist line cs)).length_le

theorem marker_not_mem_texts {n : Nat} {cs : List Char} (h : cs.length ≤ 2 * n) :
    marker n ∉ texts cs := by
  intro hm
  obtain ⟨t, ht, he⟩ := List.mem_map.1 hm
  have hlen := length_text_le_of_mem ht
  rw [he, marker, String.toList_ofList, length_mark] at hlen
  omega

/-- A word that a double quote before it leaves open is cut off at its own quote. -/
theorem quotedText_of_not_mem (rest : List Char) (cs : List Char) (h : '"' ∉ cs) :
    (quotedText (cs ++ 'a' :: '"' :: rest)).2 = rest ∧
      ('\n' ∈ cs → '\n' ∈ (quotedText (cs ++ 'a' :: '"' :: rest)).1) := by
  fun_induction paired cs with
  | case1 =>
    rw [List.nil_append, quotedText_cons (by decide) (by decide), quotedText_quote]
    exact ⟨rfl, fun hn => absurd hn List.not_mem_nil⟩
  | case2 =>
    rw [List.singleton_append, quotedText_backslash (by decide) (by decide), quotedText_quote]
    exact ⟨rfl, fun hn => absurd hn (by decide)⟩
  | case3 d cs ih =>
    rw [List.mem_cons, List.mem_cons, not_or, not_or] at h
    obtain ⟨hrest, hnewline⟩ := ih h.2.2
    rw [List.cons_append, List.cons_append]
    by_cases hd : d = '\n'
    · rw [quotedText_escaped (Or.inr hd)]
      exact ⟨hrest, fun _ => by simp [hd]⟩
    · rw [quotedText_backslash (Ne.symm h.2.1) hd]
      refine ⟨hrest, fun hn => ?_⟩
      have hn : '\n' ∈ cs := by simpa [Ne.symm hd] using hn
      simp [hnewline hn]
  | case4 d cs hlast hmore ih =>
    rw [List.mem_cons, not_or] at h
    obtain ⟨hrest, hnewline⟩ := ih h.2
    have hb : d ≠ '\\' := by
      rintro rfl
      cases cs with
      | nil => exact hlast rfl rfl
      | cons c cs => exact hmore c cs rfl rfl
    rw [List.cons_append, quotedText_cons hb (Ne.symm h.1)]
    refine ⟨hrest, fun hn => ?_⟩
    rcases List.mem_cons.1 hn with hn | hn
    · exact List.mem_cons.2 (Or.inl hn)
    · exact List.mem_cons_of_mem d (hnewline hn)

/-- A text without a delimiter does not reach the next one. -/
theorem prefix_of_append_eq {d : Char} {cs rest ds more : List Char} (hd : d ∉ cs)
    (h : cs ++ rest = ds ++ d :: more) : cs <+: ds := by
  rcases List.append_eq_append_iff.1 h with ⟨es, hds, -⟩ | ⟨es, hcs, he⟩
  · exact ⟨es, hds.symm⟩
  · cases es with
    | nil =>
      rw [List.append_nil] at hcs
      exact ⟨[], by rw [hcs, List.append_nil]⟩
    | cons e es =>
      rw [List.cons_append, List.cons.injEq] at he
      exact absurd (by rw [hcs, he.1]; simp) hd

theorem prefix_of_delimited {d : Char} {cs rest es more : List Char} (hc : d ∉ cs)
    (hne : es ≠ []) (h : d :: cs ++ rest = es ++ d :: more) : d :: cs <+: es := by
  cases es with
  | nil => exact absurd rfl hne
  | cons e es =>
    rw [List.cons_append, List.cons_append, List.cons.injEq] at h
    rw [h.1, List.cons_prefix_cons]
    exact ⟨rfl, prefix_of_append_eq hc h.2⟩

/-- A text that is too short to have the marker twice has it at one place. -/
theorem eq_of_count_lt {n : Nat} {as bs cs ds : List Char}
    (h : as ++ (backtick :: mark n ++ bs) = cs ++ (backtick :: mark n ++ ds))
    (hcount : (as ++ (backtick :: mark n ++ bs)).count 'a' < 4 * n) : as = cs := by
  have hmark : (backtick :: mark n).count 'a' = 2 * n := by
    rw [List.count_cons_of_ne (by decide), count_mark]
  rcases List.append_eq_append_iff.1 h with ⟨es, rfl, he⟩ | ⟨es, rfl, he⟩
  · by_contra hne
    have hpre := prefix_of_delimited (backtick_not_mem_mark n)
      (fun hnil => hne (by rw [hnil, List.append_nil])) he
    have hle := hpre.sublist.count_le 'a'
    rw [h, List.count_append, List.count_append, List.count_append] at hcount
    omega
  · by_contra hne
    have hpre := prefix_of_delimited (backtick_not_mem_mark n)
      (fun hnil => hne (by rw [hnil, List.append_nil])) he
    have hle := hpre.sublist.count_le 'a'
    rw [List.count_append, List.count_append, List.count_append] at hcount
    omega

/-- A text without blanks that is found in a layout is found in one word of it. -/
theorem Lays.infix {ws : List String} {cs : List Char} (h : Lays ws cs) {part : List Char}
    (hne : part ≠ []) (hpart : ∀ c ∈ part, isBlank c = false) :
    ∀ {before after : List Char}, cs = before ++ (part ++ after) →
      ∃ w ∈ ws, part <:+: writtenKey w.toList := by
  obtain ⟨p, ps, rfl⟩ := List.exists_cons_of_ne_nil hne
  induction h with
  | nil => intro before after he; simp at he
  | @blank c ws rest hc _ ih =>
    intro before after he
    cases before with
    | nil =>
      rw [List.nil_append, List.cons_append, List.cons.injEq] at he
      have hp := hpart p List.mem_cons_self
      rw [← he.1, hc] at hp
      cases hp
    | cons d before => exact ih (List.cons.inj he).2
  | @word key ws rest hr _ ih =>
    intro before after he
    rcases List.append_eq_append_iff.1 he with ⟨ds, -, hrest⟩ | ⟨ds, hkey, hrest⟩
    · obtain ⟨w, hw, hinfix⟩ := ih hrest
      exact ⟨w, List.mem_cons_of_mem key hw, hinfix⟩
    · refine ⟨key, List.mem_cons_self, ?_⟩
      rcases List.append_eq_append_iff.1 hrest with ⟨es, hds, -⟩ | ⟨es, hps, hafter⟩
      · exact ⟨before, es, by rw [hkey, hds, List.append_assoc]⟩
      · cases es with
        | nil => exact ⟨before, [], by rw [hkey, hps]; simp⟩
        | cons e es =>
          -- What follows the word starts with a blank.
          have hblank := hr e (by rw [hafter]; rfl)
          rw [hpart e (by rw [hps]; simp)] at hblank
          cases hblank

/-- No quote in an escaped word follows a letter. -/
theorem eq_nil_of_escapeQuotes_eq {key : List Char} : ∀ {before after : List Char},
    escapeQuotes key ++ ['"'] = before ++ 'a' :: '"' :: after → after = [] := by
  induction key with
  | nil =>
    intro before after h
    cases before with
    | nil => exact absurd (List.cons.inj h).1 (by decide)
    | cons b before => simp [escapeQuotes] at h
  | cons c key ih =>
    intro before after h
    by_cases hc : c = '"'
    · rw [hc, escapeQuotes_quote, List.cons_append, List.cons_append] at h
      cases before with
      | nil => exact absurd (List.cons.inj h).1 (by decide)
      | cons b before =>
        have h := (List.cons.inj h).2
        cases before with
        | nil => exact absurd (List.cons.inj h).1 (by decide)
        | cons b before => exact ih (List.cons.inj h).2
    · rw [escapeQuotes_cons hc, List.cons_append] at h
      cases before with
      | cons b before => exact ih (List.cons.inj h).2
      | nil =>
        have h := (List.cons.inj h).2
        cases key with
        | nil => exact ((List.cons.inj h).2).symm
        | cons d key =>
          by_cases hd : d = '"'
          · rw [hd, escapeQuotes_quote] at h
            exact absurd (List.cons.inj h).1 (by decide)
          · rw [escapeQuotes_cons hd] at h
            exact absurd (List.cons.inj h).1 hd

/-- Only the marker is written with the marker between backticks. -/
theorem eq_mark_of_infix {n : Nat} (hn : 0 < n) {key : List Char}
    (h : backtick :: mark n ++ [backtick] <:+: writtenKey key) : key = mark n := by
  obtain ⟨before, after, h⟩ := h
  obtain ⟨m, rfl⟩ := Nat.exists_eq_add_one_of_ne_zero (Nat.ne_of_gt hn)
  have hmark : mark (m + 1) = List.replicate m 'a' ++ 'a' :: '"' :: List.replicate (m + 1) 'a' := by
    unfold mark
    rw [List.replicate_succ', List.append_assoc]
    rfl
  rcases writtenKey_cases key with ⟨hq, hw⟩ | ⟨-, hb, hw⟩ | ⟨-, -, hw⟩
  · -- A bare word has no quote in it.
    have hquote : '"' ∈ key := by rw [← hw, ← h, hmark]; simp
    exact absurd rfl ((needsQuotes_eq_false_iff.1 hq).2 '"' hquote).2.1
  · rw [hw] at h
    cases before with
    | nil =>
      have h : mark (m + 1) ++ backtick :: after = key ++ [backtick] := by
        simpa using (List.cons.inj h).2
      have hle := (prefix_of_append_eq hb h.symm).length_le
      exact ((prefix_of_append_eq (backtick_not_mem_mark _) h).eq_of_length_le hle).symm
    | cons b before =>
      have h : key ++ [backtick] = before ++ backtick :: (mark (m + 1) ++ backtick :: after) := by
        simpa using (List.cons.inj h).2.symm
      have hle := (prefix_of_append_eq hb h).length_le
      have hlen := congrArg List.length h
      simp only [List.length_append, List.length_cons, List.length_nil] at hlen
      omega
  · -- The quote within the marker would have to be escaped.
    rw [hw, hmark] at h
    cases before with
    | nil => exact absurd (List.cons.inj h).1 (by decide)
    | cons b before =>
      have h : escapeQuotes key ++ ['"'] = (before ++ backtick :: List.replicate m 'a') ++
          'a' :: '"' :: (List.replicate (m + 1) 'a' ++ backtick :: after) := by
        simpa using (List.cons.inj h).2.symm
      have hnil := eq_nil_of_escapeQuotes_eq h
      simp at hnil

theorem marker_mem_of_lays {n : Nat} (hn : 0 < n) {ws : List String} {cs before after : List Char}
    (h : Lays ws cs) (he : cs = before ++ (writtenKey (mark n) ++ after)) : marker n ∈ ws := by
  rw [writtenKey_mark] at he
  have hblank : ∀ c ∈ backtick :: mark n ++ [backtick], isBlank c = false := by
    intro c hc
    rw [List.cons_append, List.mem_cons, List.mem_append, List.mem_singleton] at hc
    rcases hc with rfl | hc | rfl
    · decide
    · exact isBlank_of_mem_mark hc
    · decide
  obtain ⟨w, hw, hinfix⟩ := h.infix (List.cons_ne_nil _ _) hblank he
  have hmark := eq_mark_of_infix hn hinfix
  rwa [marker, ← hmark, String.ofList_toList]

theorem mark_succ (n : Nat) : mark (n + 1) = 'a' :: (List.replicate n 'a' ++
    '"' :: List.replicate (n + 1) 'a') := by
  unfold mark
  rw [List.replicate_succ]
  rfl

theorem isBlank_of_mem_replicate {n : Nat} {c : Char} (h : c ∈ List.replicate n 'a') :
    isBlank c = false := by
  rw [List.eq_of_mem_replicate h]
  decide

/-- The text of an open word takes a line break, and what follows it is a bare word with a backtick in
it, in front of `more`. -/
def Cut (scanned : List Char × List Char) (more : List Char) : Prop :=
  '\n' ∈ scanned.1 ∧ ∃ cs, (∀ c ∈ cs, isBlank c = false) ∧
    scanned.2 = 'a' :: cs ++ '\n' :: more ∧ backtick ∈ cs

/-- Between quotes, the marker is cut at its own quote. -/
theorem cut_quotedText {front : List Char} (hq : '"' ∉ front) (hn : '\n' ∈ front) (n : Nat)
    (more : List Char) :
    Cut (quotedText (front ++ (writtenKey (mark (n + 1)) ++ '\n' :: more))) more := by
  have hfront : '"' ∉ front ++ backtick :: List.replicate n 'a' := by
    simp [hq, backtick]
  have heq : front ++ (writtenKey (mark (n + 1)) ++ '\n' :: more) =
      (front ++ backtick :: List.replicate n 'a') ++ 'a' :: '"' ::
        (List.replicate (n + 1) 'a' ++ backtick :: '\n' :: more) := by
    rw [writtenKey_mark, mark, List.replicate_succ']
    simp
  obtain ⟨hafter, hline⟩ := quotedText_of_not_mem
    (List.replicate (n + 1) 'a' ++ backtick :: '\n' :: more) _ hfront
  unfold Cut
  rw [heq, hafter]
  refine ⟨hline (List.mem_append_left _ hn), List.replicate n 'a' ++ [backtick], ?_, ?_, by simp⟩
  · rw [List.forall_mem_append, List.forall_mem_singleton]
    exact ⟨fun c => isBlank_of_mem_replicate, by decide⟩
  · rw [List.replicate_succ]
    simp

/-- Between backticks, the marker's own backtick ends the word. -/
theorem cut_verbatimText {front : List Char} (hb : backtick ∉ front) (hn : '\n' ∈ front) (n : Nat)
    (more : List Char) :
    Cut (verbatimText (front ++ (writtenKey (mark (n + 1)) ++ '\n' :: more))) more := by
  unfold Cut verbatimText
  rw [takeWhile_ne_append hb, dropWhile_ne_append hb, writtenKey_mark]
  refine ⟨List.mem_append_left _ hn, List.replicate n 'a' ++ '"' :: List.replicate (n + 1) 'a' ++
    [backtick], ?_, ?_, by simp⟩
  · rw [List.forall_mem_append, List.forall_mem_singleton]
    refine ⟨fun c hc => isBlank_of_mem_mark (n := n + 1) ?_, by decide⟩
    rw [mark_succ]
    exact List.mem_cons_of_mem 'a' hc
  · rw [mark_succ]
    simp

/-- Behind lines that leave a word open, the marker is not read. -/
theorem marker_not_mem_of_goesOn {cs front more : List Char} {n : Nat} {ts : List Token} {l : Nat}
    {first : List Char} {scan : List Char → List Char × List Char}
    (hscan : scan = quotedText ∨ scan = verbatimText)
    (happ : ∀ rest, ∃ l', tokensFrom 1 (cs ++ rest) =
      ts ++ ⟨String.ofList (first ++ (scan rest).1), l⟩ :: tokensFrom l' (scan rest).2)
    (hq : '"' ∉ front) (hb : backtick ∉ front) (hn : '\n' ∈ front)
    (hcs : cs.length ≤ 2 * (n + 1)) (hmore : more.length < 2 * (n + 1)) :
    marker (n + 1) ∉ texts (cs ++ (front ++ (writtenKey (mark (n + 1)) ++ '\n' :: more))) := by
  have hcut : Cut (scan (front ++ (writtenKey (mark (n + 1)) ++ '\n' :: more))) more := by
    rcases hscan with rfl | rfl
    · exact cut_quotedText hq hn n more
    · exact cut_verbatimText hb hn n more
  obtain ⟨hline, ds, hds, hafter, htick⟩ := hcut
  obtain ⟨l', happ'⟩ := happ (front ++ (writtenKey (mark (n + 1)) ++ '\n' :: more))
  have hword : word 'a' (ds ++ '\n' :: more) = ('a' :: ds, '\n' :: more) :=
    word_bare (by decide) (by decide) hds (endsWord_cons Text.isBlank_newline more)
  unfold texts
  rw [happ', hafter, List.cons_append, tokensFrom_word (by decide) (by decide), hword,
    List.map_append, List.map_cons, List.map_cons, map_text_tokensFrom, List.mem_append,
    List.mem_cons, List.mem_cons]
  rintro (hmem | heq | heq | hmem)
  · obtain ⟨l'', hnil⟩ := happ []
    refine marker_not_mem_texts hcs ?_
    rw [List.append_nil] at hnil
    unfold texts
    rw [hnil, List.map_append]
    exact List.mem_append_left _ hmem
  · have hchars := congrArg String.toList heq
    unfold marker at hchars
    rw [String.toList_ofList, String.toList_ofList] at hchars
    exact newline_not_mem_mark (n + 1) (hchars ▸ List.mem_append_right _ hline)
  · have hchars := congrArg String.toList heq
    unfold marker at hchars
    rw [String.toList_ofList, String.toList_ofList] at hchars
    exact backtick_not_mem_mark (n + 1) (hchars ▸ List.mem_cons_of_mem _ htick)
  · exact marker_not_mem_texts hmore hmem

end ProxyFleet.Caddyfile
