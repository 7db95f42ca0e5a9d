import Mathlib.Data.List.Basic
import ProxyFleet.Caddyfile.Prune

/-!
Pruning is greedy. The validator is asked about every block once, behind the blocks it accepted
before, and what it accepted is what is left; the rest is logged. So a text from which something is
left is one that the validator has accepted.
-/

namespace ProxyFleet.Caddyfile

variable {α : Type}

def chosen (blocks : List String) (decisions : List Bool) : List String :=
  ((blocks.zip decisions).filter (·.2)).map (·.1)

def question (blocks : List String) (decisions : List Bool) (i : Nat) : String :=
  String.join (chosen (blocks.take i) (decisions.take i)) ++ blocks.getD i ""

def complaint? (validate : Validator α) (blocks : List String) (decisions : List Bool) (i : Nat) :
    Option String :=
  match validate (question blocks decisions i) with
  | .ok _ => none
  | .error failure => some (rejection failure (blocks.getD i ""))

/-- `p` comes of offering the blocks one after the other, with `decisions` made on them and `notes`
logged before. -/
structure Greedy (validate : Validator α) (notes : String) (blocks : List String)
    (decisions : List Bool) (p : Pruned) : Prop where
  decided : decisions.length = blocks.length
  decision : ∀ i < blocks.length,
    decisions[i]? = some (validate (question blocks decisions i)).isOk
  asked : p.asked = (List.range blocks.length).map (question blocks decisions)
  text : p.text = String.join (chosen blocks decisions)
  log : p.log = notes ++
    String.join ((List.range blocks.length).filterMap (complaint? validate blocks decisions))
  accepted : true ∈ decisions → (validate p.text).isOk = true

theorem chosen_append {as bs : List String} {ds es : List Bool} (h : ds.length = as.length) :
    chosen (as ++ bs) (ds ++ es) = chosen as ds ++ chosen bs es := by
  rw [chosen, List.zip_append h.symm, List.filter_append, List.map_append]
  rfl

/-- What comes later has no part in an earlier question. -/
theorem question_append {as bs : List String} {ds es : List Bool} (h : ds.length = as.length)
    {i : Nat} (hi : i < as.length) : question (as ++ bs) (ds ++ es) i = question as ds i := by
  rw [question, List.take_append_of_le_length (by omega), List.take_append_of_le_length (by omega),
    List.getD_eq_getElem?_getD, List.getElem?_append_left hi, ← List.getD_eq_getElem?_getD]
  rfl

theorem question_last {as : List String} {ds es : List Bool} (h : ds.length = as.length)
    (b : String) : question (as ++ [b]) (ds ++ es) as.length = String.join (chosen as ds) ++ b := by
  unfold question
  rw [List.take_left, ← h, List.take_left, List.getD_eq_getElem?_getD, h,
    List.getElem?_concat_length]
  rfl

theorem complaint?_append (validate : Validator α) {as bs : List String} {ds es : List Bool}
    (h : ds.length = as.length) {i : Nat} (hi : i < as.length) :
    complaint? validate (as ++ bs) (ds ++ es) i = complaint? validate as ds i := by
  rw [complaint?, question_append h hi, List.getD_eq_getElem?_getD, List.getElem?_append_left hi,
    ← List.getD_eq_getElem?_getD]
  rfl

theorem complaint?_last (validate : Validator α) {as : List String} {ds : List Bool}
    (h : ds.length = as.length) (es : List Bool) (b : String) :
    complaint? validate (as ++ [b]) (ds ++ es) as.length =
      match validate (String.join (chosen as ds) ++ b) with
      | .ok _ => none
      | .error failure => some (rejection failure b) := by
  unfold complaint?
  rw [question_last h, List.getD_eq_getElem?_getD, List.getElem?_concat_length]
  rfl

/-- Offering one more block is one more greedy decision. -/
theorem Greedy.offer {validate : Validator α} {notes : String} {blocks : List String}
    {decisions : List Bool} {p : Pruned} (h : Greedy validate notes blocks decisions p)
    (b : String) :
    Greedy validate notes (blocks ++ [b]) (decisions ++ [(validate (p.text ++ b)).isOk])
      (p.offer validate b) := by
  have hq : question (blocks ++ [b]) (decisions ++ [(validate (p.text ++ b)).isOk]) blocks.length =
      p.text ++ b := by rw [question_last h.decided, h.text]
  have hold : ∀ i ∈ List.range blocks.length, i < blocks.length := fun i => List.mem_range.1
  have hasked : (List.range blocks.length).map (question (blocks ++ [b])
      (decisions ++ [(validate (p.text ++ b)).isOk])) = p.asked := by
    rw [h.asked]
    exact List.map_congr_left fun i hi => question_append h.decided (hold i hi)
  have hlog : (List.range blocks.length).filterMap (complaint? validate (blocks ++ [b])
      (decisions ++ [(validate (p.text ++ b)).isOk])) =
      (List.range blocks.length).filterMap (complaint? validate blocks decisions) :=
    List.filterMap_congr fun i hi => complaint?_append validate h.decided (hold i hi)
  refine ⟨by simp [h.decided], ?_, ?_, ?_, ?_, ?_⟩
  · intro i hi
    rw [List.length_append, List.length_singleton] at hi
    by_cases hlt : i < blocks.length
    · rw [List.getElem?_append_left (by rw [h.decided]; exact hlt), question_append h.decided hlt]
      exact h.decision i hlt
    · obtain rfl : i = blocks.length := by omega
      rw [hq, ← h.decided, List.getElem?_concat_length]
  · rw [List.length_append, List.length_singleton, List.range_succ, List.map_append, hasked,
      List.map_singleton, hq, Pruned.offer]
    split <;> rfl
  · rw [chosen_append h.decided, String.join_append, ← h.text, Pruned.offer]
    cases hv : validate (p.text ++ b) <;> simp [chosen, Except.isOk, Except.toBool]
  · have hlast := complaint?_last validate h.decided [(validate (p.text ++ b)).isOk] b
    rw [← h.text] at hlast
    rw [List.length_append, List.length_singleton, List.range_succ, List.filterMap_append, hlog,
      String.join_append, ← String.append_assoc, ← h.log, List.filterMap_cons, hlast,
      Pruned.offer]
    cases validate (p.text ++ b) <;> simp
  · intro hm
    rw [Pruned.offer]
    split
    · rename_i hv
      simp only [hv, Except.isOk, Except.toBool]
    · rename_i hv
      rw [hv] at hm
      exact h.accepted (by simpa [Except.isOk, Except.toBool] using hm)

end ProxyFleet.Caddyfile
