import Mathlib.Data.List.Induction
import ProxyFleet.Proofs.Fleet.Arranged
import ProxyFleet.Proofs.Fleet.Kept
import ProxyFleet.Proofs.Fleet.Shares

/-!
Merging keeps sites apart. However often a site is found, there is one block for it, and all global
options are in one block; only proxying directives may stand beside others with the same words. The
text of a cycle has the global options first, then the snippets, then the rest, every block once.
-/

namespace ProxyFleet.Fleet

open Caddyfile

/-- Blocks with the same words are proxying directives. -/
def SitesApart (tree : List Block) : Prop :=
  tree.Pairwise fun a b => a.keys = b.keys → a.isProxying = true

/-- A block that takes another one in is as apart from the rest as before. -/
theorem keys_join_ne {b target c : Block} (hj : b.joins target = true)
    (h : target.keys = c.keys → target.isProxying = true) :
    (join b target).keys = c.keys → (join b target).isProxying = true := by
  rw [isProxying_join hj]
  intro he
  cases hb : b.isProxying with
  | true => rw [isProxying_of_joins hj, hb]
  | false =>
    rw [keys_join hb] at he
    exact h he

theorem sitesApart_changeFirst (b : Block) {tree : List Block} (h : SitesApart tree) :
    SitesApart (changeFirst b.joins (join b) b tree) := by
  induction tree with
  | nil => exact List.pairwise_singleton _ _
  | cons a rest ih =>
    obtain ⟨ha, hrest⟩ := List.pairwise_cons.1 h
    rw [changeFirst]
    split
    · next hj => exact List.pairwise_cons.2 ⟨fun c hc => keys_join_ne hj (ha c hc), hrest⟩
    · next hj =>
      refine List.pairwise_cons.2 ⟨fun c hc he => ?_, ih hrest⟩
      rcases mem_changeFirst hc with hc | rfl | ⟨d, hd, hjoins, rfl⟩
      · exact ha c hc he
      · exact absurd (joins_of_keys he) hj
      · -- `d` has more words than before only if all three are proxying directives.
        cases hb : b.isProxying with
        | true =>
          rw [isProxying_eq_of_firstKey (firstKey_eq_of_keys he), isProxying_join hjoins,
            isProxying_of_joins hjoins, hb]
        | false =>
          rw [keys_join hb] at he
          exact ha d hd he

theorem sitesApart_mergeInto : ∀ other base : List Block, SitesApart base →
    SitesApart (mergeInto other base)
  | [], base, h => by rwa [mergeInto]
  | b :: rest, base, h => by
    rw [mergeInto]
    exact sitesApart_mergeInto rest _ (sitesApart_changeFirst b h)

theorem sitesApart_merged (trees : List (List Block)) : SitesApart (merged trees) := by
  unfold merged
  induction trees using List.reverseRecOn with
  | nil => exact .nil
  | append_singleton trees tree ih =>
    rw [List.foldl_append]
    exact sitesApart_mergeInto tree _ ih

/-- Proxying directives may get the same words when they take in others'. -/
example : (merged [[.ofKeys ["reverse_proxy"], .ofKeys ["reverse_proxy", "/x"]],
      [.ofKeys ["reverse_proxy", "*", "/x"]]]).map (·.keys) =
    [["reverse_proxy", "/x"], ["reverse_proxy", "/x"]] := by decide +kernel

theorem keys_of_isGlobal {b : Block} (h : b.isGlobal = true) : b.keys = [] :=
  List.isEmpty_iff.1 h

theorem isProxying_of_isGlobal {b : Block} (h : b.isGlobal = true) : b.isProxying = false := by
  have hname : b.firstKey = "" := by
    rw [Block.firstKey, keys_of_isGlobal h]
    rfl
  unfold Block.isProxying
  rw [hname]
  rfl

theorem SitesApart.length_globals_le {tree : List Block} (h : SitesApart tree) :
    (tree.filter Block.isGlobal).length ≤ 1 := by
  have hp : (tree.filter Block.isGlobal).Pairwise fun _ _ => False := by
    refine (List.Pairwise.filter _ h).imp_of_mem fun {a b} ha hb hab => ?_
    have hga := (List.mem_filter.1 ha).2
    have hproxying := hab (by rw [keys_of_isGlobal hga, keys_of_isGlobal (List.mem_filter.1 hb).2])
    rw [isProxying_of_isGlobal hga] at hproxying
    cases hproxying
  match hl : tree.filter Block.isGlobal with
  | [] | [_] => simp
  | a :: b :: _ =>
    rw [hl] at hp
    exact absurd (List.rel_of_pairwise_cons hp List.mem_cons_self) id

/-! The text of a tree is made of the texts of its blocks. -/

/-- The text of a tree is that of its blocks in some order. -/
theorem exists_render_eq (bs : List Block) :
    ∃ bs' : List Block, bs'.Perm bs ∧ render bs = String.join (bs'.map renderBlock) := by
  -- Sorting may as well be done before the children of the blocks are sorted.
  let ahead (a b : Block) : Bool := ((sortWithin a).compare (sortWithin b)).isLE
  have hsort : (bs.mergeSort ahead).map sortWithin = sort bs := by
    rw [sort, sortLevel, sortEach_eq_map]
    exact List.map_mergeSort (f := sortWithin) (r := ahead) fun _ _ _ _ => rfl
  refine ⟨bs.mergeSort ahead, List.mergeSort_perm _ _, ?_⟩
  apply String.toList_injective
  rw [toList_render, toList_join_renderBlock, sortEach_eq_map, hsort]

theorem render_of_length_le {bs : List Block} (h : bs.length ≤ 1) :
    render bs = String.join (bs.map renderBlock) := by
  obtain ⟨bs', hp, he⟩ := exists_render_eq bs
  match bs, h with
  | [], _ => rw [he, hp.eq_nil]
  | [b], _ => rw [he, hp.eq_singleton]

/-- A tree that was read from a text or that labels describe. -/
def Found (tree : List Block) : Prop :=
  (∃ data, tree = (parseBytes data).blocks) ∨
    ∃ fs data labels, Label.blocks fs data labels = .ok tree

theorem found_nil : Found [] := .inl ⟨[], by rw [parseBytes_nil]⟩

theorem found_labelBlocks (o : Options) (labels : Engine.Labels) (data : Json)
    (find : Journaled (Except Failure (List String))) :
    Found (elements (labelBlocks o labels data find).value) := by
  cases h : (labelBlocks o labels data find).value with
  | ok tree =>
    rw [value_labelBlocks] at h
    exact .inr ⟨_, _, _, h⟩
  | error e => exact found_nil

theorem found_configBlocks (o : Options) (e : Numbered) (c : Engine.Config) :
    Found (configBlocks o e c) := by
  unfold configBlocks
  split
  · split
    · exact .inl ⟨_, rfl⟩
    · exact found_nil
  · exact found_nil

theorem found_containerShare (o : Options) (g : Groups) (c : Engine.Container) :
    Found (containerShare o g c).blocks := by
  simp only [containerShare, containerBlocks, Journaled.value_bind, value_orNoted]
  exact found_labelBlocks _ _ _ _

theorem found_serviceShare (o : Options) (engines : List Numbered) (g : Groups)
    (s : Engine.Service) : Found (serviceShare o engines g s).blocks := by
  simp only [serviceShare, serviceBlocks, Journaled.value_bind, value_orNoted]
  exact found_labelBlocks _ _ _ _

theorem found_baseBlocks (base : Option BaseFile) : Found (baseBlocks base) := by
  unfold baseBlocks readBase
  split
  · exact found_nil
  · split
    · exact .inl ⟨_, value_readCaddyfile _ _⟩
    · exact found_nil

/-- Whatever has a share in a harvest was found. -/
theorem found_of_mem_engineShares {o : Options} {engines : List Numbered} {g : Groups}
    {e : Numbered × Bool} {share : Share} (h : share ∈ engineShares o engines g e) :
    Found share.blocks := by
  simp only [engineShares, List.mem_append] at h
  rcases h with h | h | h
  · split at h
    · obtain ⟨c, -, rfl⟩ := List.mem_map.1 h
      exact found_configBlocks o e.1 c
    · cases h
  · obtain ⟨c, -, rfl⟩ := List.mem_map.1 h
    exact found_containerShare o g c
  · split at h
    · obtain ⟨s, -, rfl⟩ := List.mem_map.1 h
      exact found_serviceShare o engines g s
    · cases h

theorem found_of_mem_allShares {o : Options} {s : Surroundings} {g : Groups} {nodes : List Bool}
    {share : Share} (h : share ∈ allShares o s g nodes) : Found share.blocks := by
  rcases List.mem_cons.1 h with rfl | h
  · exact found_baseBlocks s.base
  · obtain ⟨e, -, he⟩ := List.mem_flatMap.1 h
    exact found_of_mem_engineShares he

/-- The global options, the snippets and the rest of a tree are written in this order, and every
block is written once. -/
theorem exists_text_eq {tree : List Block} (h : SitesApart tree) :
    ∃ snippets rest : List Block,
      (tree.filter Block.isGlobal ++ (snippets ++ rest)).Perm tree ∧
      (∀ b ∈ snippets, b.isSnippet = true) ∧
      (∀ b ∈ rest, b.isGlobal = false ∧ b.isSnippet = false) ∧
      (Sections.ofTree tree).text =
        String.join ((tree.filter Block.isGlobal ++ (snippets ++ rest)).map renderBlock) := by
  obtain ⟨snippets, hsnippets, htext⟩ := exists_render_eq (Sections.ofTree tree).snippets
  obtain ⟨rest, hrest, htext'⟩ := exists_render_eq (Sections.ofTree tree).rest
  refine ⟨snippets, rest, ?_, fun b hb => ?_, fun b hb => ?_, ?_⟩
  · refine List.Perm.trans ?_ (List.filter_append_perm Block.isGlobal tree)
    refine List.Perm.append_left _ ((hsnippets.append hrest).trans ?_)
    exact List.filter_append_perm Block.isSnippet _
  · exact (List.mem_filter.1 (hsnippets.mem_iff.1 hb)).2
  · obtain ⟨hb, hsnippet⟩ := List.mem_filter.1 (hrest.mem_iff.1 hb)
    exact ⟨by simpa using (List.mem_filter.1 hb).2, by simpa using hsnippet⟩
  · rw [List.map_append, List.map_append, String.join_append, String.join_append, ← htext, ← htext',
      ← render_of_length_le h.length_globals_le, ← String.append_assoc]
    rfl

/-- Whatever is merged, the tree has one block of global options at most, and no two blocks with the
same words but proxying directives; its text has that block first, then the snippets, then the rest,
each block once. The Caddyfile of every cycle is made of such a text. -/
theorem sites_apart_in_order :
    (∀ trees : List (List Block),
      ((merged trees).filter Block.isGlobal).length ≤ 1 ∧
      (merged trees).Pairwise (fun a b => a.keys = b.keys → a.isProxying = true) ∧
      ∃ snippets rest : List Block,
        ((merged trees).filter Block.isGlobal ++ (snippets ++ rest)).Perm (merged trees) ∧
        (∀ b ∈ snippets, b.isSnippet = true) ∧
        (∀ b ∈ rest, b.isGlobal = false ∧ b.isSnippet = false) ∧
        (Sections.ofTree (merged trees)).text = String.join
          (((merged trees).filter Block.isGlobal ++ (snippets ++ rest)).map renderBlock)) ∧
    ∀ {α : Type} (o : Options) (validate : Validator α) (s : Surroundings) (m : Memory),
      ∃ trees, (∀ tree ∈ trees, Found tree) ∧
        (cycle o validate s m).value.1.caddyfile =
          finished o validate (Sections.ofTree (merged trees)).text := by
  constructor
  · intro trees
    have h := sitesApart_merged trees
    exact ⟨h.length_globals_le, h, exists_text_eq h⟩
  · intro α o validate s m
    refine ⟨(cycleShares o s m).map (·.blocks), ?_, by rw [value_cycle]⟩
    intro tree htree
    obtain ⟨share, hshare, rfl⟩ := List.mem_map.1 htree
    exact found_of_mem_allShares hshare

end ProxyFleet.Fleet
