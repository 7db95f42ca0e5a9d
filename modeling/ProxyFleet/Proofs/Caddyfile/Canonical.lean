import Mathlib.Data.List.FinRange
import Mathlib.Logic.Equiv.Fin.Basic
import Mathlib.Logic.Equiv.Option
import ProxyFleet.Caddyfile.Printer
import ProxyFleet.Proofs.Caddyfile.Tree

/-!
Sorting chooses one of all trees that differ only in how siblings are arranged. Trees have the same
sorted form exactly if one is a rearrangement of the other, and then they have the same text.
-/

namespace ProxyFleet

section Correspondence

variable {α β : Type}

/-- Lists that are permutations of each other have their elements in corresponding places. -/
theorem exists_equiv_of_perm {l l' : List α} (h : l.Perm l') :
    ∃ σ : Fin l.length ≃ Fin l'.length, ∀ i, l[i] = l'[σ i] := by
  induction h with
  | nil => exact ⟨Equiv.refl _, fun i => i.elim0⟩
  | cons x _ ih =>
    obtain ⟨σ, hσ⟩ := ih
    refine ⟨(finSuccEquiv _).trans ((Equiv.optionCongr σ).trans (finSuccEquiv _).symm), fun i => ?_⟩
    induction i using Fin.cases with
    | zero => simp
    | succ i => simpa using hσ i
  | swap x y l =>
    refine ⟨Equiv.swap (0 : Fin (l.length + 2)) 1, fun i => ?_⟩
    match i with
    | 0 => simp
    | 1 => simp
    | ⟨i + 2, hi⟩ =>
      have hσ : Equiv.swap (0 : Fin (l.length + 2)) 1 ⟨i + 2, hi⟩ = ⟨i + 2, hi⟩ :=
        Equiv.swap_apply_of_ne_of_ne (by simp [Fin.ext_iff]) (by simp [Fin.ext_iff])
      simp [hσ]
  | trans _ _ ih₁ ih₂ =>
    obtain ⟨σ, hσ⟩ := ih₁
    obtain ⟨τ, hτ⟩ := ih₂
    exact ⟨σ.trans τ, fun i => (hσ i).trans (hτ (σ i))⟩

theorem map_perm_map_iff {l l' : List α} {f : α → β} :
    (l.map f).Perm (l'.map f) ↔
      ∃ σ : Fin l.length ≃ Fin l'.length, ∀ i, f l[i] = f l'[σ i] := by
  constructor
  · intro h
    obtain ⟨σ, hσ⟩ := exists_equiv_of_perm h
    have hl : l.length = (l.map f).length := (List.length_map f).symm
    refine ⟨(finCongr hl).trans (σ.trans (finCongr (List.length_map f))), fun i => ?_⟩
    simpa using hσ (finCongr hl i)
  · rintro ⟨σ, h⟩
    have hσ : ((List.finRange l.length).map σ).Perm (List.finRange l'.length) := by
      rw [List.perm_ext_iff_of_nodup ((List.nodup_finRange _).map σ.injective)
        (List.nodup_finRange _)]
      exact fun j => ⟨fun _ => List.mem_finRange j,
        fun _ => List.mem_map.2 ⟨σ.symm j, List.mem_finRange _, σ.apply_symm_apply j⟩⟩
    have hl : l.map f = ((List.finRange l.length).map σ).map fun j => f l'[j] := by
      conv_lhs => rw [← List.map_getElem_finRange l, List.map_map]
      rw [List.map_map]
      exact List.map_congr_left fun i _ => h i
    have hl' : l'.map f = (List.finRange l'.length).map fun j => f l'[j] := by
      conv_lhs => rw [← List.map_getElem_finRange l', List.map_map]
      rfl
    rw [hl, hl']
    exact hσ.map _

end Correspondence

namespace Caddyfile

/-- The trees are the same up to the arrangement of siblings: those of the one correspond to those of
the other, with the same words and orders and with children that are rearranged likewise. -/
inductive Rearranged : List Block → List Block → Prop
  | intro {as bs : List Block} (σ : Fin as.length ≃ Fin bs.length)
    (keys : ∀ i, as[i].keys = bs[σ i].keys) (order : ∀ i, as[i].order = bs[σ i].order)
    (children : ∀ i, Rearranged as[i].children bs[σ i].children) : Rearranged as bs

theorem sortWithin_eq_iff {a b : Block} :
    sortWithin a = sortWithin b ↔
      a.keys = b.keys ∧ a.order = b.order ∧ sort a.children = sort b.children := by
  obtain ⟨ka, oa, ca⟩ := a
  obtain ⟨kb, ob, cb⟩ := b
  rw [sortWithin, sortWithin, ← sort, ← sort, Block.mk.injEq]

/-- Trees have the same sorted form if blocks with the same sorted form correspond. -/
theorem sort_eq_sort_iff {as bs : List Block} :
    sort as = sort bs ↔
      ∃ σ : Fin as.length ≃ Fin bs.length, ∀ i, sortWithin as[i] = sortWithin bs[σ i] := by
  rw [← map_perm_map_iff, sort, sort, sortEach_eq_map, sortEach_eq_map]
  exact ⟨fun h => (sortLevel_perm _).symm.trans (h ▸ sortLevel_perm _), sortLevel_eq_of_perm⟩

theorem Rearranged.sort_eq {as bs : List Block} (h : Rearranged as bs) : sort as = sort bs := by
  induction h with
  | intro σ keys order children ih =>
    exact sort_eq_sort_iff.2 ⟨σ, fun i => sortWithin_eq_iff.2 ⟨keys i, order i, ih i⟩⟩

/-- If the children of blocks with the same sorted form are rearranged, so are trees with the same
sorted form. -/
theorem rearranged_of_children {as bs : List Block} (hsort : sort as = sort bs)
    (h : ∀ a ∈ as, ∀ b : Block, sort a.children = sort b.children →
      Rearranged a.children b.children) :
    Rearranged as bs := by
  obtain ⟨σ, hσ⟩ := sort_eq_sort_iff.1 hsort
  have hparts := fun i => sortWithin_eq_iff.1 (hσ i)
  exact ⟨σ, fun i => (hparts i).1, fun i => (hparts i).2.1,
    fun i => h _ (List.getElem_mem _) _ (hparts i).2.2⟩

mutual

theorem rearranged_children : ∀ a b : Block, sort a.children = sort b.children →
    Rearranged a.children b.children
  | ⟨_, _, children⟩, _, h => rearranged_of_children h (rearranged_children_of_mem children)

theorem rearranged_children_of_mem : ∀ as : List Block, ∀ a ∈ as, ∀ b : Block,
    sort a.children = sort b.children → Rearranged a.children b.children
  | [] => nofun
  | first :: rest =>
    List.forall_mem_cons.2 ⟨rearranged_children first, rearranged_children_of_mem rest⟩

end

theorem rearranged_iff {as bs : List Block} : Rearranged as bs ↔ sort as = sort bs :=
  ⟨Rearranged.sort_eq, fun h => rearranged_of_children h (rearranged_children_of_mem as)⟩

/-! What is in order is left alone, and what sorting leaves is in order. -/

def LevelInOrder (bs : List Block) : Prop := bs.Pairwise fun a b => (a.compare b).isLE = true

def InOrder (bs : List Block) : Prop :=
  LevelInOrder bs ∧ ∀ b ∈ blocksIn bs, LevelInOrder b.children

instance (bs : List Block) : Decidable (LevelInOrder bs) :=
  inferInstanceAs (Decidable (List.Pairwise _ _))

instance (bs : List Block) : Decidable (InOrder bs) := inferInstanceAs (Decidable (_ ∧ _))

mutual

theorem sortWithin_of_inOrder : ∀ b : Block, (∀ x ∈ blocksIn [b], LevelInOrder x.children) →
    sortWithin b = b
  | ⟨keys, order, children⟩, h => by
    obtain ⟨hlevel, hbelow⟩ := forall_blocksIn_singleton.1 h
    rw [sortWithin, sortEach_of_inOrder children hbelow, sortLevel_of_pairwise hlevel]

theorem sortEach_of_inOrder : ∀ bs : List Block, (∀ x ∈ blocksIn bs, LevelInOrder x.children) →
    sortEach bs = bs
  | [], _ => rfl
  | b :: rest, h => by
    obtain ⟨hb, hrest⟩ := forall_blocksIn_cons.1 h
    rw [sortEach, sortWithin_of_inOrder b hb, sortEach_of_inOrder rest hrest]

end

theorem sort_of_inOrder {bs : List Block} (h : InOrder bs) : sort bs = bs := by
  rw [sort, sortEach_of_inOrder bs h.2, sortLevel_of_pairwise h.1]

theorem forall_blocksIn_perm {P : Block → Prop} {as bs : List Block} (h : as.Perm bs) :
    (∀ x ∈ blocksIn as, P x) ↔ ∀ x ∈ blocksIn bs, P x := by
  rw [blocksIn_eq_flatMap, blocksIn_eq_flatMap]
  exact forall_congr' fun x => imp_congr_left (h.flatMap_right _).mem_iff

mutual

theorem inOrder_sortWithin : ∀ b : Block, ∀ x ∈ blocksIn [sortWithin b], LevelInOrder x.children
  | ⟨keys, order, children⟩ => by
    rw [sortWithin]
    refine forall_blocksIn_singleton.2 ⟨sortLevel_pairwise _, ?_⟩
    exact (forall_blocksIn_perm (sortLevel_perm _)).2 (inOrder_sortEach children)

theorem inOrder_sortEach : ∀ bs : List Block, ∀ x ∈ blocksIn (sortEach bs),
    LevelInOrder x.children
  | [] => nofun
  | b :: rest => by
    rw [sortEach]
    exact forall_blocksIn_cons.2 ⟨inOrder_sortWithin b, inOrder_sortEach rest⟩

end

theorem inOrder_sort (bs : List Block) : InOrder (sort bs) :=
  ⟨sortLevel_pairwise _, (forall_blocksIn_perm (sortLevel_perm _)).2 (inOrder_sortEach bs)⟩

theorem sort_sort (bs : List Block) : sort (sort bs) = sort bs := sort_of_inOrder (inOrder_sort bs)

/-- The sorted form stands for all rearrangements of a tree: it is one of them, it is in order, and
trees have the same one exactly if they are rearrangements of each other, which then have the same
text. Sorting what is in order changes nothing. -/
theorem sort_canonical (as bs : List Block) :
    (sort as = sort bs ↔ Rearranged as bs) ∧ (Rearranged as bs → render as = render bs) ∧
      Rearranged (sort as) as ∧ InOrder (sort as) ∧ (InOrder as → sort as = as) := by
  refine ⟨rearranged_iff.symm, fun h => ?_, rearranged_iff.2 (sort_sort as), inOrder_sort as,
    sort_of_inOrder⟩
  rw [render, render, h.sort_eq]

def siteFor (name : String) (directives : List String) : Block :=
  ⟨[name], naturalOrder, directives.map fun d => .ofKeys [d]⟩

def foundSites : List Block := [siteFor "b.example" ["log", "encode"], siteFor "a.example" []]

/-- The same sites found in another order, one of them with its directives in another order. -/
def foundLater : List Block := [siteFor "a.example" [], siteFor "b.example" ["encode", "log"]]

theorem rearranged_foundSites : Rearranged foundSites foundLater := by
  refine ⟨(Equiv.swap 0 1 : Fin 2 ≃ Fin 2), by decide, by decide, Fin.forall_fin_two.2 ⟨?_, ?_⟩⟩
  · exact ⟨(Equiv.swap 0 1 : Fin 2 ≃ Fin 2), by decide, by decide,
      Fin.forall_fin_two.2 ⟨rearranged_iff.2 rfl, rearranged_iff.2 rfl⟩⟩
  · exact rearranged_iff.2 rfl

theorem sort_canonical_foundSites :
    Rearranged foundSites foundLater ∧ sort foundSites = sort foundLater ∧
      render foundSites = render foundLater ∧ sort (sort foundSites) = sort foundSites :=
  ⟨rearranged_foundSites, (sort_canonical _ _).1.2 rearranged_foundSites,
    (sort_canonical _ _).2.1 rearranged_foundSites,
    (sort_canonical _ []).2.2.2.2 (sort_canonical foundSites []).2.2.2.1⟩

end Caddyfile

end ProxyFleet
