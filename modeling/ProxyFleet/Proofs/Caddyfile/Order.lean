import Mathlib.Data.List.Basic
import ProxyFleet.Caddyfile.Order

/-!
The canonical order is linear. Two blocks compare equal only if they are the same, so a list of
siblings has a single sorted form, and sorting what is sorted changes nothing.
-/

namespace ProxyFleet

open Std

/-- Comparing by one thing first and by something else after it is transitive if both are. -/
theorem isLE_then_trans {α : Type} {f : α → α → Ordering} [TransCmp f] {a b c : α}
    {o p q : Ordering} (h : o.isLE → p.isLE → q.isLE) (hab : ((f a b).then o).isLE)
    (hbc : ((f b c).then p).isLE) : ((f a c).then q).isLE := by
  rw [Ordering.isLE_then_iff_or] at hab hbc ⊢
  rcases hab with hab | ⟨hab, ho⟩
  · left
    rcases hbc with hbc | ⟨hbc, -⟩
    · exact TransCmp.lt_trans hab hbc
    · exact TransCmp.lt_of_lt_of_eq hab hbc
  · rcases hbc with hbc | ⟨hbc, hp⟩
    · exact Or.inl (TransCmp.lt_of_eq_of_lt hab hbc)
    · exact Or.inr ⟨TransCmp.eq_trans hab hbc, h ho hp⟩

namespace Block

mutual

theorem compare_swap : ∀ a b : Block, compare a b = (compare b a).swap
  | ⟨ka, oa, ca⟩, ⟨kb, ob, cb⟩ => by
    rw [compare, compare, Ordering.swap_then, Ordering.swap_then, Ordering.swap_then,
      ← OrientedOrd.eq_swap, ← OrientedOrd.eq_swap, ← OrientedOrd.eq_swap,
      compareChildren_swap ca cb]

theorem compareChildren_swap : ∀ as bs : List Block,
    compareChildren as bs = (compareChildren bs as).swap
  | [], [] => rfl
  | [], _ :: _ => rfl
  | _ :: _, [] => rfl
  | a :: as, b :: bs => by
    rw [compareChildren, compareChildren, Ordering.swap_then, compare_swap a b,
      compareChildren_swap as bs]

end

mutual

theorem eq_of_compare : ∀ {a b : Block}, compare a b = .eq → a = b
  | ⟨ka, oa, ca⟩, ⟨kb, ob, cb⟩, h => by
    rw [compare, Ordering.then_eq_eq, Ordering.then_eq_eq, Ordering.then_eq_eq] at h
    obtain ⟨-, ho, hk, hc⟩ := h
    rw [LawfulEqOrd.eq_of_compare ho, LawfulEqOrd.eq_of_compare hk, eq_of_compareChildren hc]

theorem eq_of_compareChildren : ∀ {as bs : List Block}, compareChildren as bs = .eq → as = bs
  | [], [], _ => rfl
  | a :: as, b :: bs, h => by
    rw [compareChildren, Ordering.then_eq_eq] at h
    rw [eq_of_compare h.1, eq_of_compareChildren h.2]

end

theorem compare_self (a : Block) : compare a a = .eq :=
  Ordering.eq_eq_of_eq_swap (compare_swap a a)

theorem antisymm {a b : Block} (hab : (compare a b).isLE) (hba : (compare b a).isLE) : a = b := by
  rw [compare_swap b a] at hba
  exact eq_of_compare (Ordering.eq_eq_of_isLE_of_isLE_swap hab hba)

mutual

theorem isLE_trans : ∀ {a b c : Block}, (compare a b).isLE → (compare b c).isLE →
    (compare a c).isLE
  | ⟨ka, oa, ca⟩, ⟨kb, ob, cb⟩, ⟨kc, oc, cc⟩, hab, hbc => by
    rw [compare] at hab hbc ⊢
    refine isLE_then_trans (f := fun x y : Bool => Ord.compare y x) ?_ hab hbc
    exact isLE_then_trans (isLE_then_trans isLE_trans_children)

theorem isLE_trans_children : ∀ {as bs cs : List Block}, (compareChildren as bs).isLE →
    (compareChildren bs cs).isLE → (compareChildren as cs).isLE
  | [], _, [], _, _ => rfl
  | [], _, _ :: _, _, _ => rfl
  | _ :: _, [], _, h, _ => by simp [compareChildren] at h
  | _ :: _, _ :: _, [], _, h => by simp [compareChildren] at h
  | a :: as, b :: bs, c :: cs, hab, hbc => by
    rw [compareChildren, Ordering.isLE_then_iff_and] at hab hbc ⊢
    have hac := isLE_trans hab.1 hbc.1
    refine ⟨hac, ?_⟩
    rcases Ordering.isLE_iff_eq_lt_or_eq_eq.1 hac with h | h
    · exact Or.inl h
    · -- Heads that compare equal are the same, and so is the head between them.
      obtain rfl := eq_of_compare h
      obtain rfl := antisymm hab.1 hbc.1
      rw [compare_self] at hab hbc
      exact Or.inr (isLE_trans_children (hab.2.resolve_left nofun) (hbc.2.resolve_left nofun))

end

instance : TransCmp compare where
  eq_swap := compare_swap _ _
  isLE_trans := isLE_trans

theorem compare_eq_iff {a b : Block} : compare a b = .eq ↔ a = b :=
  ⟨eq_of_compare, fun h => h ▸ compare_self a⟩

/-- What holds of two comparisons in a row holds of the first block and the last. -/
theorem compare_trans {o : Ordering} {a b c : Block} (hab : compare a b = o)
    (hbc : compare b c = o) : compare a c = o := by
  cases o with
  | lt => exact TransCmp.lt_trans hab hbc
  | eq => exact TransCmp.eq_trans hab hbc
  | gt => exact TransCmp.gt_trans hab hbc

/-- What sorting takes for granted of the comparison of a list's elements: changing sides turns it
around, and coming before, being equal and coming behind are transitive. -/
structure Comparable (cmp : Block → Block → Ordering) (bs : List Block) : Prop where
  swap : ∀ a ∈ bs, ∀ b ∈ bs, cmp b a = (cmp a b).swap
  trans : ∀ o, ∀ a ∈ bs, ∀ b ∈ bs, ∀ c ∈ bs, cmp a b = o → cmp b c = o → cmp a c = o

/-- Blocks are ordered linearly, by all they consist of, so any siblings can be sorted. -/
theorem compare_linear (a b c : Block) :
    (compare a b = .eq ↔ a = b) ∧ compare b a = (compare a b).swap ∧
      ((compare a b).isLE → (compare b c).isLE → (compare a c).isLE) ∧
      ∀ siblings, Comparable compare siblings := by
  refine ⟨compare_eq_iff, compare_swap b a, isLE_trans, fun siblings => ⟨?_, ?_⟩⟩
  · intro x _ y _
    exact compare_swap y x
  · intro o x _ y _ z _ hxy hyz
    exact compare_trans hxy hyz

def routeOf (children : List Block) : Block := ⟨["route"], naturalOrder, children⟩

/-- A longer list of children comes behind its beginning, whatever is in it, and before a list with
a later child. -/
theorem compare_linear_routes :
    (compare (routeOf [ofKeys ["a"]]) (routeOf [ofKeys ["a"], ofKeys ["b"]])).isLE ∧
      (compare (routeOf [ofKeys ["a"], ofKeys ["b"]]) (routeOf [ofKeys ["b"]])).isLE ∧
      (compare (routeOf [ofKeys ["a"]]) (routeOf [ofKeys ["b"]])).isLE := by
  have hab : (compare (routeOf [ofKeys ["a"]]) (routeOf [ofKeys ["a"], ofKeys ["b"]])).isLE := by
    decide
  have hbc : (compare (routeOf [ofKeys ["a"], ofKeys ["b"]]) (routeOf [ofKeys ["b"]])).isLE := by
    decide
  exact ⟨hab, hbc, (compare_linear _ _ _).2.2.1 hab hbc⟩

theorem isLE_of_isGlobal {a b : Block} (ha : a.isGlobal = true) (hb : b.isGlobal = false) :
    (compare a b).isLE := by
  obtain ⟨ka, oa, ca⟩ := a
  obtain ⟨kb, ob, cb⟩ := b
  rw [isGlobal] at ha hb
  rw [compare, ha, hb]
  rfl

/-- Among blocks with words and among blocks without, the order decides. -/
theorem isLE_of_order_lt {a b : Block} (hg : a.isGlobal = b.isGlobal) (ho : a.order < b.order) :
    (compare a b).isLE := by
  obtain ⟨ka, oa, ca⟩ := a
  obtain ⟨kb, ob, cb⟩ := b
  rw [isGlobal, isGlobal] at hg
  have hlt : Ord.compare oa ob = .lt := Std.compare_eq_lt.2 ho
  rw [compare, hg, ReflOrd.compare_self, hlt]
  rfl

theorem isGlobal_of_isLE {a b : Block} (h : (compare a b).isLE) (hb : b.isGlobal = true) :
    a.isGlobal = true := by
  obtain ⟨ka, oa, ca⟩ := a
  obtain ⟨kb, ob, cb⟩ := b
  rw [isGlobal] at hb ⊢
  cases ha : ka.isEmpty with
  | true => rfl
  | false =>
    rw [compare, ha, hb] at h
    cases h

end Block

namespace Caddyfile

theorem isLE_total (a b : Block) : ((a.compare b).isLE || (b.compare a).isLE) = true := by
  rw [Block.compare_swap b a]
  cases a.compare b <;> rfl

theorem sortLevel_perm (bs : List Block) : (sortLevel bs).Perm bs := List.mergeSort_perm bs _

theorem sortLevel_pairwise (bs : List Block) :
    (sortLevel bs).Pairwise fun a b => (a.compare b).isLE = true :=
  @List.pairwise_mergeSort Block (fun a b => (a.compare b).isLE) (fun _ _ _ => Block.isLE_trans)
    isLE_total bs

theorem sortLevel_of_pairwise {bs : List Block}
    (h : bs.Pairwise fun a b => (a.compare b).isLE = true) : sortLevel bs = bs :=
  List.mergeSort_of_pairwise h

theorem sortLevel_singleton (b : Block) : sortLevel [b] = [b] := List.mergeSort_singleton b

/-- Siblings have one canonical order. -/
theorem sortLevel_eq_of_perm {as bs : List Block} (h : as.Perm bs) : sortLevel as = sortLevel bs :=
  List.Perm.eq_of_pairwise (fun _ _ _ _ => Block.antisymm) (sortLevel_pairwise as)
    (sortLevel_pairwise bs) (((sortLevel_perm as).trans h).trans (sortLevel_perm bs).symm)

/-- Where no two orders are the same, sorting only puts the global options first. -/
theorem sortLevel_eq_filter {bs : List Block} (h : bs.Pairwise fun a b => a.order < b.order) :
    sortLevel bs = bs.filter Block.isGlobal ++ bs.filter fun b => !b.isGlobal := by
  rw [← sortLevel_eq_of_perm (List.filter_append_perm Block.isGlobal bs)]
  refine sortLevel_of_pairwise (List.pairwise_append.2 ⟨?_, ?_, ?_⟩)
  · refine (h.filter _).imp_of_mem fun {a b} ha hb hab => Block.isLE_of_order_lt ?_ hab
    rw [(List.mem_filter.1 ha).2, (List.mem_filter.1 hb).2]
  · refine (h.filter _).imp_of_mem fun {a b} ha hb hab => Block.isLE_of_order_lt ?_ hab
    have ha := (List.mem_filter.1 ha).2
    have hb := (List.mem_filter.1 hb).2
    rw [Bool.not_eq_true'] at ha hb
    rw [ha, hb]
  · intro a ha b hb
    have hb := (List.mem_filter.1 hb).2
    rw [Bool.not_eq_true'] at hb
    exact Block.isLE_of_isGlobal (List.mem_filter.1 ha).2 hb

end Caddyfile

end ProxyFleet
