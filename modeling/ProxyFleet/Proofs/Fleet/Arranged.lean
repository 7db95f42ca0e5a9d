import ProxyFleet.Fleet.Cycle
import ProxyFleet.Proofs.Caddyfile.Layout
import ProxyFleet.Proofs.Caddyfile.Merging

/-!
The generated text lists the top-level blocks in one linear order: global options, then snippets, then
the rest, and each of these in the canonical order. So the text of two trees together is that of
each with the blocks of the other in between, and merging a workload whose names are new only adds
blocks.
-/

namespace ProxyFleet.Fleet

open Caddyfile

/-- The top-level blocks in the order of the generated text. -/
def arranged (tree : List Block) : List Block :=
  sort (Sections.ofTree tree).globals ++ (sort (Sections.ofTree tree).snippets ++
    sort (Sections.ofTree tree).rest)

def sectionOf (b : Block) : Nat := if b.isGlobal then 0 else if b.isSnippet then 1 else 2

def Ahead (a b : Block) : Prop :=
  sectionOf a < sectionOf b ∨ sectionOf a = sectionOf b ∧ (a.compare b).isLE = true

instance (a b : Block) : Decidable (Ahead a b) :=
  inferInstanceAs (Decidable (sectionOf a < sectionOf b ∨
    sectionOf a = sectionOf b ∧ (a.compare b).isLE = true))

theorem ahead_antisymm {a b : Block} (hab : Ahead a b) (hba : Ahead b a) : a = b := by
  rcases hab with hlt | ⟨he, hab⟩
  · rcases hba with hlt' | ⟨he, -⟩
    · exact absurd (Nat.lt_trans hlt hlt') (Nat.lt_irrefl _)
    · exact absurd hlt (Nat.not_lt.2 (Nat.le_of_eq he))
  · rcases hba with hlt | ⟨-, hba⟩
    · exact absurd hlt (Nat.not_lt.2 (Nat.le_of_eq he))
    · exact Block.antisymm hab hba

theorem isSnippet_sortWithin (b : Block) : (sortWithin b).isSnippet = b.isSnippet := by
  cases b
  rfl

theorem sectionOf_sortWithin (b : Block) : sectionOf (sortWithin b) = sectionOf b := by
  unfold sectionOf
  rw [isGlobal_sortWithin, isSnippet_sortWithin]

theorem sort_perm_map (bs : List Block) : (sort bs).Perm (bs.map sortWithin) := by
  rw [← sortEach_eq_map]
  exact sortLevel_perm _

theorem arranged_perm (tree : List Block) : (arranged tree).Perm (tree.map sortWithin) := by
  have hothers := (List.filter_append_perm Block.isSnippet
    (tree.filter fun b => !b.isGlobal)).map sortWithin
  have hall := (List.filter_append_perm Block.isGlobal tree).map sortWithin
  rw [List.map_append] at hothers hall
  refine List.Perm.trans ?_ hall
  refine (sort_perm_map _).append (List.Perm.trans ?_ hothers)
  exact (sort_perm_map _).append (sort_perm_map _)

theorem sectionOf_of_mem_sort {bs : List Block} {n : Nat} (h : ∀ b ∈ bs, sectionOf b = n) :
    ∀ b ∈ sort bs, sectionOf b = n := by
  intro x hx
  obtain ⟨b, hb, rfl⟩ := mem_sort.1 hx
  rw [sectionOf_sortWithin, h b hb]

theorem pairwise_sort_of_section {bs : List Block} {n : Nat} (h : ∀ b ∈ bs, sectionOf b = n) :
    (sort bs).Pairwise Ahead := by
  refine (sortLevel_pairwise _).imp_of_mem fun {a b} ha hb hab => Or.inr ⟨?_, hab⟩
  rw [sectionOf_of_mem_sort h a ha, sectionOf_of_mem_sort h b hb]

theorem arranged_pairwise (tree : List Block) : (arranged tree).Pairwise Ahead := by
  have hg : ∀ b ∈ (Sections.ofTree tree).globals, sectionOf b = 0 := by
    intro b hb
    unfold sectionOf
    rw [if_pos (List.mem_filter.1 hb).2]
  have hs : ∀ b ∈ (Sections.ofTree tree).snippets, sectionOf b = 1 := by
    intro b hb
    obtain ⟨hb, hsnippet⟩ := List.mem_filter.1 hb
    have hglobal : b.isGlobal = false := by simpa using (List.mem_filter.1 hb).2
    unfold sectionOf
    rw [hglobal, hsnippet]
    rfl
  have hr : ∀ b ∈ (Sections.ofTree tree).rest, sectionOf b = 2 := by
    intro b hb
    obtain ⟨hb, hsnippet⟩ := List.mem_filter.1 hb
    have hglobal : b.isGlobal = false := by simpa using (List.mem_filter.1 hb).2
    have hsnippet : b.isSnippet = false := by simpa using hsnippet
    unfold sectionOf
    rw [hglobal, hsnippet]
    rfl
  refine List.pairwise_append.2 ⟨pairwise_sort_of_section hg, List.pairwise_append.2
    ⟨pairwise_sort_of_section hs, pairwise_sort_of_section hr, ?_⟩, ?_⟩
  · intro a ha b hb
    left
    rw [sectionOf_of_mem_sort hs a ha, sectionOf_of_mem_sort hr b hb]
    decide
  · intro a ha b hb
    left
    rw [sectionOf_of_mem_sort hg a ha]
    rcases List.mem_append.1 hb with hb | hb
    · rw [sectionOf_of_mem_sort hs b hb]
      decide
    · rw [sectionOf_of_mem_sort hr b hb]
      decide

theorem eq_arranged {bs tree : List Block} (hp : bs.Perm (tree.map sortWithin))
    (hs : bs.Pairwise Ahead) : bs = arranged tree :=
  List.Perm.eq_of_pairwise (fun _ _ _ _ => ahead_antisymm) hs (arranged_pairwise tree)
    (hp.trans (arranged_perm tree).symm)

theorem toList_text (tree : List Block) :
    (Sections.ofTree tree).text.toList = writtenAll 0 (arranged tree) := by
  unfold Sections.text
  rw [String.toList_append, String.toList_append, toList_render, toList_render,
    toList_render, arranged, writtenAll_append, writtenAll_append, List.append_assoc]

/-! Merging blocks with new names. -/

def NewNames (tree other : List Block) : Prop :=
  ∀ b ∈ tree, ∀ w ∈ other, b.firstKey ≠ w.firstKey

instance (tree other : List Block) : Decidable (NewNames tree other) :=
  inferInstanceAs (Decidable (∀ b ∈ tree, ∀ w ∈ other, b.firstKey ≠ w.firstKey))

theorem mergeInto_append {tree : List Block} : ∀ (other base : List Block), NewNames tree other →
    mergeInto other (tree ++ base) = tree ++ mergeInto other base
  | [], base, _ => by rw [mergeInto, mergeInto]
  | w :: rest, base, h => by
    have hw : ∀ b ∈ tree, w.joins b = false := fun b hb =>
      joins_eq_false (h b hb w List.mem_cons_self)
    rw [mergeInto, mergeInto, changeFirst_append hw]
    exact mergeInto_append rest _ fun b hb x hx => h b hb x (List.mem_cons_of_mem w hx)

theorem merge_eq_append {tree other : List Block} (h : NewNames tree other) :
    merge tree other = tree ++ merge [] other := by
  have happ := mergeInto_append other [] h
  rwa [List.append_nil] at happ

theorem firstKey_of_mem_mergeInto : ∀ (other base : List Block), ∀ x ∈ mergeInto other base,
    (∃ b ∈ base, x.firstKey = b.firstKey) ∨ ∃ w ∈ other, x.firstKey = w.firstKey
  | [], base, x, hx => Or.inl ⟨x, by rwa [mergeInto] at hx, rfl⟩
  | w :: rest, base, x, hx => by
    rw [mergeInto] at hx
    rcases firstKey_of_mem_mergeInto rest _ x hx with ⟨b, hb, he⟩ | ⟨v, hv, he⟩
    · rcases mem_changeFirst hb with hb | rfl | ⟨a, ha, ht, rfl⟩
      · exact Or.inl ⟨b, hb, he⟩
      · exact Or.inr ⟨b, List.mem_cons_self, he⟩
      · rw [firstKey_join ht] at he
        exact Or.inl ⟨a, ha, he⟩
    · exact Or.inr ⟨v, List.mem_cons_of_mem w hv, he⟩

theorem firstKey_of_mem_merge {other : List Block} {x : Block} (h : x ∈ merge [] other) :
    ∃ w ∈ other, x.firstKey = w.firstKey :=
  (firstKey_of_mem_mergeInto other [] x h).resolve_left nofun

end ProxyFleet.Fleet
