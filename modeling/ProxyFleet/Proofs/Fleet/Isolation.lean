import Mathlib.Data.List.Induction
import ProxyFleet.Proofs.Fleet.Arranged
import ProxyFleet.Proofs.Fleet.Kept

/-!
When a workload leaves the sites of others alone. A site that is read as it is written stays in the
generated text if what the workload puts ahead of it is self-contained.
-/

namespace ProxyFleet.Fleet

open Caddyfile

/-- Every text of a site of `tree` that is left of `tree` alone is also left of it with `other`. -/
def Isolated (tree other : List Block) : Prop :=
  ∀ b ∈ tree, renderBlock b ≠ "" →
    Text.occursIn (renderBlock b).toList (kept (Sections.ofTree tree).text).toList = true →
    Text.occursIn (renderBlock b).toList
      (kept (Sections.ofTree (merge tree other)).text).toList = true

/-- Whatever `other` puts ahead of the block is self-contained. -/
def ClearAhead (other : List Block) (b : Block) : Prop :=
  ∀ pre post, arranged (b :: merge [] other) = pre ++ sortWithin b :: post →
    SelfContained (writtenAll 0 pre)

theorem selfContained_written {b : Block} (h : Faithful [b]) :
    SelfContained (written 0 (sortWithin b)) := by
  have hs := selfContained_writtenAll (sound_sortWithin h.sound)
  rwa [writtenAll, writtenAll, List.append_nil] at hs

theorem firstKey_sortWithin (b : Block) : (sortWithin b).firstKey = b.firstKey := by
  cases b
  rfl

def isNewTo (tree : List Block) (x : Block) : Bool := tree.all fun b => b.firstKey ≠ x.firstKey

theorem isNewTo_sortWithin_of_mem {tree : List Block} {b : Block} (h : b ∈ tree) :
    isNewTo tree (sortWithin b) = false := by
  unfold isNewTo
  rw [List.all_eq_false]
  exact ⟨b, h, by simp [firstKey_sortWithin]⟩

theorem isNewTo_of_mem_merge {tree other : List Block} (h : NewNames tree other) {w : Block}
    (hw : w ∈ merge [] other) : isNewTo tree (sortWithin w) = true := by
  obtain ⟨v, hv, he⟩ := firstKey_of_mem_merge hw
  unfold isNewTo
  rw [List.all_eq_true]
  intro b hb
  rw [firstKey_sortWithin, he]
  exact decide_eq_true (h b hb v hv)

/-- What stands ahead of a block of `tree` without the rest of `tree` is what stands ahead of it in
the text of it and `other` alone. -/
theorem arranged_filter {tree other : List Block} (h : NewNames tree other) {b : Block}
    (hb : b ∈ tree) {pre post : List Block}
    (ha : arranged (tree ++ merge [] other) = pre ++ sortWithin b :: post) :
    arranged (b :: merge [] other) =
      pre.filter (isNewTo tree) ++ sortWithin b :: post.filter (isNewTo tree) := by
  symm
  apply eq_arranged
  · have hall := (arranged_perm (tree ++ merge [] other)).filter (isNewTo tree)
    have htree : (tree.map sortWithin).filter (isNewTo tree) = [] := by
      rw [List.filter_eq_nil_iff]
      intro x hx
      obtain ⟨c, hc, rfl⟩ := List.mem_map.1 hx
      rw [isNewTo_sortWithin_of_mem hc]
      decide
    have hother : ((merge [] other).map sortWithin).filter (isNewTo tree) =
        (merge [] other).map sortWithin := by
      rw [List.filter_eq_self]
      intro x hx
      obtain ⟨w, hw, rfl⟩ := List.mem_map.1 hx
      exact isNewTo_of_mem_merge h hw
    rw [ha, List.map_append, List.filter_append, List.filter_append, htree, hother,
      List.filter_cons_of_neg (by rw [isNewTo_sortWithin_of_mem hb]; decide)] at hall
    exact List.perm_middle.trans (hall.cons _)
  · refine List.Pairwise.sublist ?_ (ha ▸ arranged_pairwise (tree ++ merge [] other))
    exact (List.filter_sublist).append ((List.filter_sublist).cons_cons _)

/-- Up to a self-contained text, what stands ahead of a place is what `other` alone puts there. -/
theorem ahead_of_filter {tree other : List Block} (h : NewNames tree other)
    (hf : ∀ b ∈ tree, Faithful [b]) (hc : ∀ b ∈ tree, ClearAhead other b) (pre : List Block) :
    ∀ post, arranged (tree ++ merge [] other) = pre ++ post →
      ∃ as bs cs, writtenAll 0 pre = as ++ cs ∧
        writtenAll 0 (pre.filter (isNewTo tree)) = bs ++ cs ∧ SelfContained as ∧
        SelfContained bs := by
  induction pre using List.reverseRecOn with
  | nil =>
    intro post _
    exact ⟨[], [], [], rfl, rfl, selfContained_nil, selfContained_nil⟩
  | append_singleton pre x ih =>
    intro post ha
    rw [List.append_assoc, List.singleton_append] at ha
    obtain ⟨as, bs, cs, hpre, hfilter, has, hbs⟩ := ih (x :: post) ha
    have hx : writtenAll 0 [x] = written 0 x := by rw [writtenAll, writtenAll, List.append_nil]
    rw [writtenAll_append, hpre, List.filter_append, writtenAll_append, hfilter, hx]
    have hmem : x ∈ (tree ++ merge [] other).map sortWithin :=
      (arranged_perm _).mem_iff.1 (by rw [ha]; simp)
    rw [List.map_append, List.mem_append, List.mem_map, List.mem_map] at hmem
    rcases hmem with ⟨b, hb, rfl⟩ | ⟨w, hw, rfl⟩
    · -- Up to here `other` is self-contained, so what it adds since the last such place is.
      have hclear := hc b hb _ _ (arranged_filter h hb ha)
      rw [hfilter] at hclear
      have hcs := hbs.of_append hclear
      refine ⟨as ++ cs ++ written 0 (sortWithin b), bs ++ cs, [], by simp, ?_,
        (has.append hcs).append (selfContained_written (hf b hb)), hclear⟩
      rw [List.filter_cons_of_neg (by rw [isNewTo_sortWithin_of_mem hb]; decide), List.filter_nil]
      rfl
    · refine ⟨as, bs, cs ++ written 0 (sortWithin w), by simp, ?_, has, hbs⟩
      rw [List.filter_cons_of_pos (isNewTo_of_mem_merge h hw), List.filter_nil, hx,
        List.append_assoc]

/-- Sites are kept where nothing that is ahead of them reaches into them. -/
theorem isolated_of_clearAhead {tree other : List Block} (h : NewNames tree other)
    (hf : ∀ b ∈ tree, Faithful [b]) (hc : ∀ b ∈ tree, ClearAhead other b) :
    Isolated tree other := by
  intro b hb _ _
  rw [merge_eq_append h]
  have hmem : sortWithin b ∈ arranged (tree ++ merge [] other) :=
    (arranged_perm _).mem_iff.2 (List.mem_map_of_mem (List.mem_append_left _ hb))
  obtain ⟨pre, post, ha⟩ := List.append_of_mem hmem
  obtain ⟨as, bs, cs, hpre, hfilter, has, hbs⟩ := ahead_of_filter h hf hc pre _ ha
  have hclear := hc b hb _ _ (arranged_filter h hb ha)
  rw [hfilter] at hclear
  have htext : (Sections.ofTree (tree ++ merge [] other)).text.toList =
      writtenAll 0 pre ++ ((renderBlock b).toList ++ writtenAll 0 post) := by
    rw [toList_text, ha, writtenAll_append, writtenAll, toList_renderBlock]
  refine occursIn_kept htext ?_ (wholeLines_writtenAll 0 pre) (hf b hb)
  rw [hpre]
  exact has.append (hbs.of_append hclear)

end ProxyFleet.Fleet
