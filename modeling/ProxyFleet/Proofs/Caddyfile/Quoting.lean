import ProxyFleet.Proofs.Caddyfile.Words

/-!
How far quoting reaches. The text of a key is read back as the key alone unless the key is written
bare and begins like a comment or a verbatim word, or its backticks keep it between double quotes
and a run of backslashes there takes a character into its last escape.
-/

namespace ProxyFleet.Caddyfile

/-- A run of backslashes that is as long as it can be has an odd number of them and stands before a
double quote, a line break or the end. -/
def OddRun (key : List Char) : Prop :=
  ∃ before n after, key = before ++ List.replicate n '\\' ++ after ∧
    before.getLast? ≠ some '\\' ∧ n % 2 = 1 ∧
    (after = [] ∨ after.head? = some '"' ∨ after.head? = some '\n')

theorem not_oddRun_nil : ¬ OddRun [] := by
  rintro ⟨before, n, after, hkey, -, hn, -⟩
  have hlen := congrArg List.length hkey
  simp only [List.length_nil, List.length_append, List.length_replicate] at hlen
  omega

theorem oddRun_backslash : OddRun ['\\'] :=
  ⟨[], 1, [], rfl, nofun, rfl, Or.inl rfl⟩

/-- Backslashes of a run are not told apart by what else is in front of it. -/
theorem OddRun.cons {c : Char} {rest : List Char} (hc : c ≠ '\\') (h : OddRun rest) :
    OddRun (c :: rest) := by
  obtain ⟨before, n, after, rfl, hlast, hn, hafter⟩ := h
  refine ⟨c :: before, n, after, rfl, ?_, hn, hafter⟩
  cases before with
  | nil => simpa using hc
  | cons d before => exact hlast

theorem OddRun.of_cons {c : Char} {rest : List Char} (hc : c ≠ '\\') (h : OddRun (c :: rest)) :
    OddRun rest := by
  obtain ⟨before, n, after, hkey, hlast, hn, hafter⟩ := h
  cases before with
  | nil =>
    cases n with
    | zero => cases hn
    | succ n => exact absurd (List.cons.inj hkey).1 hc
  | cons d before =>
    obtain ⟨rfl, rfl⟩ := List.cons.inj hkey
    refine ⟨before, n, after, rfl, ?_, hn, hafter⟩
    cases before with
    | nil => nofun
    | cons e before => exact hlast

/-- Two backslashes more do not change whether a run is odd. -/
theorem OddRun.backslashes {rest : List Char} (h : OddRun rest) : OddRun ('\\' :: '\\' :: rest) := by
  obtain ⟨before, n, after, rfl, hlast, hn, hafter⟩ := h
  cases before with
  | nil => exact ⟨[], n + 2, after, rfl, nofun, by omega, hafter⟩
  | cons d before => exact ⟨'\\' :: '\\' :: d :: before, n, after, rfl, hlast, hn, hafter⟩

theorem oddRun_pair {c : Char} {rest : List Char} (h : c = '"' ∨ c = '\n' ∨ OddRun rest) :
    OddRun ('\\' :: c :: rest) := by
  rcases h with rfl | rfl | h
  · exact ⟨[], 1, _, rfl, nofun, rfl, Or.inr (Or.inl rfl)⟩
  · exact ⟨[], 1, _, rfl, nofun, rfl, Or.inr (Or.inr rfl)⟩
  · by_cases hc : c = '\\'
    · subst hc
      exact h.backslashes
    · obtain ⟨before, n, after, hrest, hlast, hn, hafter⟩ := h.cons hc
      refine ⟨'\\' :: before, n, after, by rw [hrest]; rfl, ?_, hn, hafter⟩
      cases before with
      | nil =>
        -- The run would have to begin with `c`.
        cases n with
        | zero => cases hn
        | succ n => exact absurd (List.cons.inj hrest).1 hc
      | cons d before => exact hlast

theorem OddRun.of_pair {c : Char} {rest : List Char} (h : OddRun ('\\' :: c :: rest)) :
    c = '"' ∨ c = '\n' ∨ OddRun rest := by
  obtain ⟨before, n, after, hkey, hlast, hn, hafter⟩ := h
  match before, n with
  | [], 0 => cases hn
  | [], 1 =>
    obtain rfl : c :: rest = after := (List.cons.inj hkey).2
    rcases hafter with hnil | hq | hl
    · cases hnil
    · exact Or.inl (Option.some.inj hq)
    · exact Or.inr (Or.inl (Option.some.inj hl))
  | [], n + 2 =>
    obtain ⟨-, hrest⟩ := List.cons.inj (List.cons.inj hkey).2
    exact Or.inr (Or.inr ⟨[], n, after, hrest, nofun, by omega, hafter⟩)
  | [d], n =>
    obtain rfl : '\\' = d := (List.cons.inj hkey).1
    exact absurd rfl hlast
  | d :: e :: before, n =>
    obtain ⟨-, hrest⟩ := List.cons.inj (List.cons.inj hkey).2
    refine Or.inr (Or.inr ⟨before, n, after, hrest, ?_, hn, hafter⟩)
    cases before with
    | nil => nofun
    | cons f before => exact hlast

/-- Backslashes are paired off from the front of each run, so the last of an odd run is left for the
character behind it. -/
theorem paired_eq_true_iff (key : List Char) : paired key = true ↔ ¬ OddRun key := by
  fun_induction paired key with
  | case1 => exact iff_of_true rfl not_oddRun_nil
  | case2 => exact iff_of_false Bool.false_ne_true (not_not_intro oddRun_backslash)
  | case3 c rest ih =>
    have hpair : OddRun ('\\' :: c :: rest) ↔ c = '"' ∨ c = '\n' ∨ OddRun rest :=
      ⟨OddRun.of_pair, oddRun_pair⟩
    rw [hpair, not_or, not_or, ← ih]
    simp [and_assoc]
  | case4 c rest hlast hmore ih =>
    have hc : c ≠ '\\' := by
      rintro rfl
      cases rest with
      | nil => exact hlast rfl rfl
      | cons d rest => exact hmore d rest rfl rfl
    rw [ih]
    exact not_congr ⟨OddRun.cons hc, OddRun.of_cons hc⟩

/-- Which keys are read back as they are, and as nothing else: those that are quoted, unless they
have a backtick and an odd run of backslashes, and those that stand bare, unless they begin with a
number sign or a backtick. -/
theorem tokens_writtenKey_iff (key : String) :
    (tokens (String.ofList (writtenKey key.toList))).map (·.text) = [key] ↔
      (needsQuotes key.toList = true ∧ ¬ (backtick ∈ key.toList ∧ OddRun key.toList)) ∨
      (needsQuotes key.toList = false ∧ key.toList.head? ≠ some '#' ∧
        key.toList.head? ≠ some backtick) := by
  refine (legible_iff key).trans ?_
  unfold Survives
  by_cases hq : needsQuotes key.toList = true
  · rw [if_pos hq, paired_eq_true_iff, not_and, hq]
    simp
  · rw [if_neg hq, Bool.eq_false_iff.2 hq]
    simp

/-- A key with a backtick, an even run of backslashes at its end and an odd one that is harmless. -/
example : (tokens (String.ofList (writtenKey "\x60 a\\b\\\\".toList))).map (·.text) =
    ["\x60 a\\b\\\\"] := by
  cbv

end ProxyFleet.Caddyfile
