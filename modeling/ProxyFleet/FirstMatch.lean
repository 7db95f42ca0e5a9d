/-!
Changing the first element of a list that passes a test. If none does, a new element is added behind
all others, so the elements that were there keep their places.
-/

namespace ProxyFleet

universe u

/-- Changes the first element that passes `test`, or adds `new` at the end. -/
def changeFirst {α : Type u} (test : α → Bool) (change : α → α) (new : α) : List α → List α
  | [] => [new]
  | a :: rest => if test a then change a :: rest else a :: changeFirst test change new rest

variable {α : Type u} (test : α → Bool) (change : α → α) (new : α)

theorem changeFirst_eq_append {as : List α} (h : ∀ a ∈ as, test a = false) :
    changeFirst test change new as = as ++ [new] := by
  induction as with
  | nil => rfl
  | cons a rest ih =>
    simp only [List.mem_cons, forall_eq_or_imp] at h
    simp [changeFirst, h.1, ih h.2]

theorem changeFirst_append {test : α → Bool} {as : List α} (h : ∀ a ∈ as, test a = false)
    (change : α → α) (new : α) (bs : List α) :
    changeFirst test change new (as ++ bs) = as ++ changeFirst test change new bs := by
  induction as with
  | nil => rfl
  | cons a as ih =>
    simp only [List.mem_cons, forall_eq_or_imp] at h
    rw [List.cons_append, changeFirst, h.1, ih h.2]
    rfl

/-- Either none passes and one is added, or the first that passes is changed. -/
theorem changeFirst_cases (as : List α) :
    (∀ a ∈ as, test a = false) ∧ changeFirst test change new as = as ++ [new] ∨
      ∃ before a after, as = before ++ a :: after ∧ (∀ x ∈ before, test x = false) ∧
        test a = true ∧ changeFirst test change new as = before ++ change a :: after := by
  cases h : as.find? test with
  | none =>
    have hnone : ∀ a ∈ as, test a = false := by simpa using h
    exact Or.inl ⟨hnone, changeFirst_eq_append test change new hnone⟩
  | some a =>
    obtain ⟨ha, before, after, rfl, hfront⟩ := List.find?_eq_some_iff_append.1 h
    have hbefore : ∀ x ∈ before, test x = false := by simpa using hfront
    refine Or.inr ⟨before, a, after, rfl, hbefore, ha, ?_⟩
    rw [changeFirst_append hbefore, changeFirst, if_pos ha]

theorem mem_changeFirst {test : α → Bool} {change : α → α} {new x : α} {as : List α}
    (h : x ∈ changeFirst test change new as) :
    x ∈ as ∨ x = new ∨ ∃ a ∈ as, test a = true ∧ x = change a := by
  rcases changeFirst_cases test change new as with ⟨-, he⟩ | ⟨before, a, after, rfl, -, ha, he⟩
  · rw [he, List.mem_append, List.mem_singleton] at h
    exact h.imp_right Or.inl
  · simp only [he, List.mem_append, List.mem_cons] at h ⊢
    rcases h with h | rfl | h
    · exact Or.inl (Or.inl h)
    · exact Or.inr (Or.inr ⟨a, Or.inr (Or.inl rfl), ha, rfl⟩)
    · exact Or.inl (Or.inr (Or.inr h))

end ProxyFleet
