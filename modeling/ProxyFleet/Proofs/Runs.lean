import Mathlib.Data.List.Induction

/-!
Runs of a system whose steps can or cannot be taken. What holds at first and is kept by every step
holds after every run.
-/

namespace ProxyFleet

universe u v

variable {σ : Type u} {α : Type v} {step? : σ → α → Option σ} {s t : σ}

def run? (step? : σ → α → Option σ) (s : σ) (steps : List α) : Option σ := steps.foldlM step? s

theorem run?_append (as bs : List α) :
    run? step? s (as ++ bs) = (run? step? s as).bind fun t => run? step? t bs :=
  List.foldlM_append

theorem run?_cons (a : α) (as : List α) :
    run? step? s (a :: as) = (step? s a).bind fun t => run? step? t as :=
  List.foldlM_cons

theorem run?_singleton (a : α) : run? step? s [a] = step? s a := by
  simp [run?]

theorem run?_concat {as : List α} {a : α} :
    run? step? s (as ++ [a]) = some t ↔ ∃ r, run? step? s as = some r ∧ step? r a = some t := by
  rw [run?_append, Option.bind_eq_some_iff]
  simp only [run?_singleton]

theorem run?_induction {P : List α → σ → Prop} (start : P [] s)
    (step : ∀ {as r a t}, run? step? s as = some r → P as r → step? r a = some t → P (as ++ [a]) t)
    {as : List α} (h : run? step? s as = some t) : P as t := by
  induction as using List.reverseRecOn generalizing t with
  | nil =>
    obtain rfl := Option.some.inj h
    exact start
  | append_singleton as a ih =>
    obtain ⟨r, hr, ha⟩ := run?_concat.1 h
    exact step hr (ih hr) ha

/-- Taking those of the steps that can be taken is a run. -/
theorem exists_run?_foldl (step? : σ → α → Option σ) (steps : List α) (s : σ) :
    ∃ taken, taken.Sublist steps ∧
      run? step? s taken = some (steps.foldl (fun s a => (step? s a).getD s) s) := by
  induction steps generalizing s with
  | nil => exact ⟨[], .slnil, rfl⟩
  | cons a steps ih =>
    obtain ⟨taken, hsub, hrun⟩ := ih ((step? s a).getD s)
    cases ha : step? s a with
    | none =>
      rw [ha, Option.getD_none] at hrun
      exact ⟨taken, hsub.cons a, by simp [ha, hrun]⟩
    | some t =>
      rw [ha, Option.getD_some] at hrun
      exact ⟨a :: taken, hsub.cons_cons a, by simp [run?_cons, ha, hrun]⟩

end ProxyFleet
