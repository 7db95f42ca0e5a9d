import ProxyFleet.Proofs.Caddyfile.SelfContained

/-!
Texts without words. A text has none if every line of it is blank or a comment, and whole lines have
none if none of them has. So of the blocks of a tree only those leave no word that have no children,
and no keys or keys that are written as comments.
-/

namespace ProxyFleet.Caddyfile

open Text (isBlank trimStart)

/-- Every line is blank, up to a comment if there is one. -/
def Silent (cs : List Char) : Prop :=
  ∀ line ∈ cs.splitOn '\n', ∀ c ∈ (trimStart line).head?, c = '#'

instance : DecidablePred Silent := fun cs =>
  decidable_of_iff ((cs.splitOn '\n').all fun line => (trimStart line).head?.all (· = '#')) (by
    simp only [Silent, List.all_eq_true, Option.all_eq_true, decide_eq_true_eq, Option.mem_def])

theorem silent_newline (cs ds : List Char) : Silent (cs ++ '\n' :: ds) ↔ Silent cs ∧ Silent ds := by
  unfold Silent
  rw [List.splitOn_append_cons_self, List.forall_mem_append]

theorem silent_nil : Silent [] := by decide

theorem silent_blank {c : Char} (hc : isBlank c = true) (hn : c ≠ '\n') (cs : List Char) :
    Silent (c :: cs) ↔ Silent cs := by
  unfold Silent
  rw [List.splitOn_cons_eq_if_modifyHead, if_neg (by simpa using hn)]
  obtain ⟨line, rest, hcs⟩ := List.exists_cons_of_ne_nil (List.splitOn_ne_nil '\n' cs)
  rw [hcs, List.modifyHead_cons, List.forall_mem_cons, List.forall_mem_cons, trimStart,
    List.dropWhile_cons_of_pos hc]
  rfl

theorem silent_comment (cs : List Char) :
    Silent ('#' :: cs) ↔ Silent (cs.dropWhile (· ≠ '\n')) := by
  have hline : ∀ line, '\n' ∉ line → Silent ('#' :: line) := by
    intro line hline
    unfold Silent
    rw [List.splitOn_eq_singleton (by simpa using hline)]
    simp [trimStart, isBlank]
  have hfront := not_mem_takeWhile_ne '\n' cs
  have hsplit := List.takeWhile_append_dropWhile (p := (· ≠ '\n')) (l := cs)
  cases hrest : cs.dropWhile (· ≠ '\n') with
  | nil =>
    rw [hrest, List.append_nil] at hsplit
    rw [hsplit] at hfront
    exact iff_of_true (hline cs hfront) silent_nil
  | cons c rest =>
    obtain rfl : c = '\n' := head_dropWhile_ne '\n' cs c (by rw [hrest]; rfl)
    rw [← hsplit, hrest, ← List.cons_append, silent_newline]
    exact ⟨fun h => (silent_newline [] rest).2 ⟨silent_nil, h.2⟩,
      fun h => ⟨hline _ hfront, ((silent_newline [] rest).1 h).2⟩⟩

theorem not_silent_word {c : Char} (hc : isBlank c = false) (hh : c ≠ '#') (cs : List Char) :
    ¬ Silent (c :: cs) := by
  intro h
  unfold Silent at h
  rw [List.splitOn_cons_eq_if_modifyHead,
    if_neg (by simpa using ne_newline_of_isBlank hc)] at h
  obtain ⟨line, rest, hcs⟩ := List.exists_cons_of_ne_nil (List.splitOn_ne_nil '\n' cs)
  rw [hcs, List.modifyHead_cons] at h
  refine hh (h _ List.mem_cons_self c ?_)
  rw [trimStart, List.dropWhile_cons_of_neg (by simp [hc])]
  rfl

theorem tokensFrom_eq_nil_iff (line : Nat) (cs : List Char) :
    tokensFrom line cs = [] ↔ Silent cs := by
  fun_induction tokensFrom line cs with
  | case1 line => exact iff_of_true rfl silent_nil
  | case2 line cs ih =>
    rw [ih, ← List.nil_append ('\n' :: cs), silent_newline]
    exact (and_iff_right silent_nil).symm
  | case3 line c cs hn hc ih => rw [ih, silent_blank hc hn]
  | case4 line cs hn hc ih => rw [ih, silent_comment]
  | case5 line c cs hn hc hh text ih =>
    exact iff_of_false (List.cons_ne_nil _ _) (not_silent_word (by simpa using hc) hh cs)

/-! Blocks without words. -/

def Mute (b : Block) : Prop := b.children = [] ∧ Silent (writtenKeys b.keys)

instance (b : Block) : Decidable (Mute b) :=
  inferInstanceAs (Decidable (b.children = [] ∧ Silent (writtenKeys b.keys)))

/-- What goes on behind a line break begins a line of its own. -/
theorem WholeLines.exists_append {cs : List Char} (h : WholeLines cs) :
    ∃ front, '\n' :: cs = front ++ ['\n'] := by
  rcases List.eq_nil_or_concat cs with rfl | ⟨front, c, rfl⟩
  · exact ⟨[], rfl⟩
  · rw [h c (by simp)]
    exact ⟨'\n' :: front, by simp⟩

theorem exists_written_eq (level : Nat) (b : Block) : ∃ line, written level b = line ++ ['\n'] := by
  cases b
  exact ⟨_, by rw [written]⟩

theorem silent_written_iff (b : Block) : Silent (written 0 b) ↔ Mute b := by
  obtain ⟨keys, order, children⟩ := b
  cases children with
  | nil =>
    have htext : written 0 ⟨keys, order, []⟩ = writtenKeys keys ++ ['\n'] := by
      simp [written]
    rw [htext, silent_newline, and_iff_left silent_nil, Mute, and_iff_right rfl]
  | cons child children =>
    -- The closing brace has a line of its own.
    obtain ⟨front, hfront⟩ := (wholeLines_writtenAll 1 (child :: children)).exists_append
    have htext : written 0 ⟨keys, order, child :: children⟩ = writtenKeys keys ++
        ((if keys.isEmpty then [] else [' ']) ++ '\x7b' :: front) ++ '\n' :: ['\x7d', '\n'] := by
      simp only [written, List.replicate_zero, List.nil_append, List.isEmpty_cons,
        Bool.false_eq_true, if_false, Nat.zero_add, hfront]
      simp
    refine iff_of_false (fun hsilent => ?_) fun hmute => nomatch hmute.1
    rw [htext, silent_newline] at hsilent
    exact not_silent_word (by decide) (by decide) _ hsilent.2

theorem silent_writtenAll_iff (bs : List Block) :
    Silent (writtenAll 0 bs) ↔ ∀ b ∈ bs, Mute b := by
  induction bs with
  | nil => exact iff_of_true silent_nil (List.forall_mem_nil _)
  | cons b bs ih =>
    obtain ⟨line, hline⟩ := exists_written_eq 0 b
    have hb := silent_written_iff b
    rw [hline, silent_newline, and_iff_left silent_nil] at hb
    rw [writtenAll, hline, List.append_assoc, List.singleton_append, silent_newline, hb, ih,
      List.forall_mem_cons]

theorem mute_sortWithin_iff (b : Block) : Mute (sortWithin b) ↔ Mute b := by
  obtain ⟨keys, order, children⟩ := b
  refine and_congr_left fun _ => ?_
  rw [← List.length_eq_zero_iff, ← List.length_eq_zero_iff]
  show (sort children).length = 0 ↔ children.length = 0
  rw [length_sort]

/-- A key that is not written as a comment is a word. -/
theorem silent_writtenKeys_cons {key : String} {rest : List String}
    (h : Silent (writtenKeys (key :: rest))) :
    needsQuotes key.toList = false ∧ key.toList.head? = some '#' := by
  obtain ⟨more, hmore⟩ : ∃ more, writtenKeys (key :: rest) = writtenKey key.toList ++ more := by
    cases rest with
    | nil => exact ⟨[], by rw [writtenKeys, List.append_nil]⟩
    | cons next rest => exact ⟨_, by rw [writtenKeys]; exact List.cons_ne_nil next rest⟩
  rw [hmore] at h
  rcases writtenKey_cases key.toList with ⟨hq, hw⟩ | ⟨-, -, hw⟩ | ⟨-, -, hw⟩
  · rw [hw] at h
    refine ⟨hq, ?_⟩
    obtain ⟨hne, hall⟩ := needsQuotes_eq_false_iff.1 hq
    cases hkey : key.toList with
    | nil => exact absurd hkey hne
    | cons c cs =>
      rw [hkey] at h hall
      by_contra hhead
      exact not_silent_word (hall c List.mem_cons_self).1 (by simpa using hhead) _ h
  · rw [hw] at h
    exact absurd h (not_silent_word (by decide) (by decide) _)
  · rw [hw] at h
    exact absurd h (not_silent_word (by decide) (by decide) _)

/-- Without a word a block has no children, and no key or a first one that begins a comment. -/
theorem Mute.begins {b : Block} (h : Mute b) : b.children = [] ∧
    ∀ key ∈ b.keys.head?, needsQuotes key.toList = false ∧ key.toList.head? = some '#' := by
  refine ⟨h.1, fun key hkey => ?_⟩
  obtain ⟨rest, hkeys⟩ := List.head?_eq_some_iff.1 hkey
  have hsilent := h.2
  rw [hkeys] at hsilent
  exact silent_writtenKeys_cons hsilent

end ProxyFleet.Caddyfile
