import Mathlib.Data.List.Induction
import Mathlib.Data.Nat.Digits.Defs
import ProxyFleet.Label.Tree
import ProxyFleet.Proofs.Template.Reading

/-!
How labels are read: which names are paths, which values are templates and what a segment says of its
block. Cutting at points and joining with points undo each other, so a path is known by its text.
-/

namespace ProxyFleet.Label

/-! Paths. -/

theorem segments_eq_splitOn (cs : List Char) : segments cs = cs.splitOn '.' := by
  induction cs with
  | nil => rfl
  | cons c rest ih =>
    rw [segments, ih, List.splitOn_cons_eq_if_modifyHead]
    by_cases hc : c = '.'
    · simp [hc]
    · simp only [hc, beq_iff_eq, if_false]
      cases hs : rest.splitOn '.' with
      | nil => exact absurd hs (List.splitOn_ne_nil _ _)
      | cons s more => rfl

theorem joined_cons {s : Segment} {path : List Segment} (h : path ≠ []) :
    joined (s :: path) = s ++ '.' :: joined path := by
  cases path with
  | nil => exact absurd rfl h
  | cons t path => simp [joined, List.intercalate]

theorem newline_mem_joined {path : List Segment} : '\n' ∈ joined path ↔ ∃ s ∈ path, '\n' ∈ s := by
  induction path with
  | nil => simp [joined]
  | cons s path ih =>
    cases path with
    | nil => simp [joined]
    | cons t path =>
      rw [joined_cons (List.cons_ne_nil t path), List.mem_append, List.mem_cons, ih]
      simp

theorem joined_eq_nil {path : List Segment} (h : joined path = []) (hne : path ≠ []) :
    path = [[]] := by
  cases path with
  | nil => exact absurd rfl hne
  | cons s path =>
    cases path with
    | nil => simpa [joined] using h
    | cons t path =>
      rw [joined_cons (List.cons_ne_nil t path)] at h
      simp at h

/-- A name is a path if no segment is empty and only the last holds a line break. -/
def WellNamed (label : String) : Prop :=
  (∀ s ∈ label.toList.splitOn '.', s ≠ []) ∧ ∀ s ∈ (label.toList.splitOn '.').dropLast, '\n' ∉ s

/-- A path ends in faulty segments if the last is empty or those before it are not on one line. -/
theorem faulty_iff {s : Segment} {parents : List Segment} (hne : parents ≠ []) :
    (s.isEmpty || (joined parents.reverse).isEmpty || (joined parents.reverse).contains '\n') = true ↔
      s = [] ∨ parents = [[]] ∨ ∃ t ∈ parents, '\n' ∈ t := by
  have hnil : joined parents.reverse = [] ↔ parents = [[]] := by
    constructor
    · intro h
      have hrev := joined_eq_nil h (by simpa using hne)
      simpa using congrArg List.reverse hrev
    · rintro rfl
      rfl
  simp [hnil, newline_mem_joined, or_assoc]

theorem fault?_eq_none_iff {last : List Segment} :
    fault? last = none ↔ (∀ s ∈ last, s ≠ []) ∧ ∀ s ∈ last.tail, '\n' ∉ s := by
  fun_induction fault? last with
  | case1 => simp
  | case2 s hs => simpa using hs
  | case3 s hs => simpa using hs
  | case4 s parents hne parent hfault =>
    simp only [reduceCtorEq, List.forall_mem_cons, List.tail_cons, false_iff]
    rintro ⟨⟨hs, hparents⟩, hline⟩
    rcases (faulty_iff hne).1 hfault with rfl | rfl | ⟨t, ht, hnew⟩
    · exact hs rfl
    · exact hparents [] List.mem_cons_self rfl
    · exact hline t ht hnew
  | case5 s parents hne parent hfault ih =>
    have hgood := mt (faulty_iff hne).2 hfault
    simp only [not_or, not_exists, not_and] at hgood
    obtain ⟨hs, -, hline⟩ := hgood
    rw [ih, List.forall_mem_cons, List.tail_cons]
    constructor
    · rintro ⟨hparents, -⟩
      exact ⟨⟨hs, hparents⟩, hline⟩
    · rintro ⟨⟨-, hparents⟩, -⟩
      exact ⟨hparents, fun t ht => hline t (List.mem_of_mem_tail ht)⟩

theorem path?_eq_ok_iff {label : String} {path : List Segment} :
    path? label = .ok path ↔ WellNamed label ∧ path = segments label.toList := by
  have hfault : fault? (segments label.toList).reverse = none ↔ WellNamed label := by
    rw [fault?_eq_none_iff, WellNamed, List.tail_reverse, segments_eq_splitOn]
    simp only [List.mem_reverse]
  rw [← hfault, path?]
  cases fault? (segments label.toList).reverse with
  | none => simp [eq_comm]
  | some fault => simp

def IsNumber (digits : List Char) : Prop :=
  digits ≠ [] ∧ ∀ c ∈ digits, Text.isDecimalDigit c = true

/-- The number before the rest of a segment, if it asks for a place. -/
inductive Asks : Segment → Option (List Char) → List Char → Prop
  | place {digits rest : List Char} (hd : IsNumber digits) (hr : rest ≠ []) :
    Asks (digits ++ '_' :: rest) (some digits) rest
  | nothing {s : Segment}
    (h : ∀ digits rest, IsNumber digits → rest ≠ [] → s ≠ digits ++ '_' :: rest) : Asks s none s

/-- The name without the number that tells blocks of that name apart, if there is one. -/
inductive Names : List Char → List Char → Prop
  | numbered {name digits : List Char} (hn : name ≠ []) (hd : IsNumber digits) :
    Names (name ++ '_' :: digits) name
  | alone {s : List Char}
    (h : ∀ name digits, name ≠ [] → IsNumber digits → s ≠ name ++ '_' :: digits) : Names s s

def decimal (digits : List Char) : Nat :=
  Nat.ofDigits 10 (digits.reverse.map fun c => c.toNat - 48)

/-- The place that is given: a number in ASCII digits that fits 32 bits, else none. -/
inductive Places : Option (List Char) → Int → Prop
  | asked {digits : List Char} (ascii : ∀ c ∈ digits, c.isDigit = true)
    (small : (decimal digits : Int) ≤ naturalOrder) : Places (some digits) (decimal digits)
  | natural {digits? : Option (List Char)}
    (h : ∀ digits, digits? = some digits → (∀ c ∈ digits, c.isDigit = true) →
      naturalOrder < (decimal digits : Int)) : Places digits? naturalOrder

def Segment.Reads (s : Segment) (name : String) (order : Int) : Prop :=
  ∃ digits? rest, Asks s digits? rest ∧ Names rest name.toList ∧ Places digits? order

theorem IsNumber.reverse {digits : List Char} (h : IsNumber digits) : IsNumber digits.reverse :=
  ⟨by simpa using h.1, fun c hc => h.2 c (List.mem_reverse.1 hc)⟩

theorem Asks.names {s rest : List Char} {digits? : Option (List Char)}
    (h : Asks s digits? rest) : Names s.reverse rest.reverse := by
  cases h with
  | @place digits rest hd hr =>
    rw [List.reverse_append, List.reverse_cons, List.append_assoc, List.singleton_append]
    exact .numbered (List.reverse_ne_nil_iff.2 hr) hd.reverse
  | nothing h =>
    refine .alone fun name digits hn hd he => ?_
    refine h digits.reverse name.reverse hd.reverse (List.reverse_ne_nil_iff.2 hn) ?_
    simpa using congrArg List.reverse he

example : Segment.name "2_route_1".toList = "route" ∧ Segment.order "2_route_1".toList = 2 := by
  decide

end ProxyFleet.Label
