import ProxyFleet.Proofs.Caddyfile.Reader

/-!
Which texts survive being read and written again. The text of a faithful tree does: what is read from
it is in canonical order already. Conversely, if what is read from a text has that text again, then
it is a faithful tree, for a word that is not read as it is written leaves a trace: a number sign or
an opening brace is lost, or the words come in another order than they are written in.
-/

namespace ProxyFleet.Caddyfile

/-- The text of the tree is read without a fault, and what is read has the same text. -/
def RoundTrips (tree : List Block) : Prop :=
  (parseBytes (Text.utf8 (render tree))).fault = none ∧
    render (parseBytes (Text.utf8 (render tree))).blocks = render tree

instance (tree : List Block) : Decidable (RoundTrips tree) :=
  inferInstanceAs (Decidable (_ = _ ∧ _ = _))

/-! What the reader has numbered is in canonical order already. -/

theorem orderAt_of_lt {n : Nat} (h : n < 2 ^ 31) : orderAt n = (n : Int) := by
  unfold orderAt naturalOrder
  omega

theorem isGlobal_placed (place : Nat → Int) (order : Int) (b : Block) :
    (placed place order b).isGlobal = b.isGlobal := by
  cases b
  rfl

theorem order_placed (place : Nat → Int) (order : Int) (b : Block) :
    (placed place order b).order = order := by
  cases b
  rfl

theorem mem_placedFrom {place : Nat → Int} {n : Nat} {bs : List Block} {x : Block}
    (h : x ∈ placedFrom place n bs) :
    ∃ b ∈ bs, ∃ i, n ≤ i ∧ i < n + bs.length ∧ x = placed place (place i) b := by
  induction bs generalizing n with
  | nil => cases h
  | cons b rest ih =>
    rw [placedFrom, List.mem_cons] at h
    rcases h with rfl | h
    · exact ⟨b, List.mem_cons_self, n, Nat.le_refl n, by simp, rfl⟩
    · obtain ⟨c, hc, i, hn, hi, rfl⟩ := ih h
      exact ⟨c, List.mem_cons_of_mem b hc, i, by omega, by rw [List.length_cons]; omega, rfl⟩

/-- Numbering keeps siblings sorted. -/
theorem pairwise_placedFrom {bs : List Block} {n : Nat} (hn : n + bs.length < 2 ^ 31)
    (h : bs.Pairwise fun a b => (a.compare b).isLE = true) :
    (placedFrom orderAt n bs).Pairwise fun a b => (a.compare b).isLE = true := by
  induction bs generalizing n with
  | nil => exact List.Pairwise.nil
  | cons b rest ih =>
    rw [List.length_cons] at hn
    rw [List.pairwise_cons] at h
    rw [placedFrom, List.pairwise_cons]
    refine ⟨fun x hx => ?_, ih (by omega) h.2⟩
    obtain ⟨c, hc, i, hi, hlt, rfl⟩ := mem_placedFrom hx
    have ho : (placed orderAt (orderAt n) b).order < (placed orderAt (orderAt i) c).order := by
      rw [order_placed, order_placed, orderAt_of_lt (by omega), orderAt_of_lt (by omega)]
      omega
    cases hg : b.isGlobal with
    | true =>
      cases hg' : c.isGlobal with
      | true => exact Block.isLE_of_order_lt (by rw [isGlobal_placed, isGlobal_placed, hg, hg']) ho
      | false =>
        exact Block.isLE_of_isGlobal (by rw [isGlobal_placed, hg]) (by rw [isGlobal_placed, hg'])
    | false =>
      cases hg' : c.isGlobal with
      | true => exact absurd (Block.isGlobal_of_isLE (h.1 c hc) hg') (by rw [hg]; decide)
      | false => exact Block.isLE_of_order_lt (by rw [isGlobal_placed, isGlobal_placed, hg, hg']) ho

/-- Numbering and sorting again changes nothing but the order of the block itself. -/
def Settled (b : Block) : Prop :=
  ∀ order, sortWithin (placed orderAt order b) = placed orderAt order b

theorem sort_placedFrom {bs : List Block} {n : Nat} (hn : n + bs.length < 2 ^ 31)
    (hp : bs.Pairwise fun a b => (a.compare b).isLE = true) (hs : ∀ b ∈ bs, Settled b) :
    sort (placedFrom orderAt n bs) = placedFrom orderAt n bs := by
  have heach : sortEach (placedFrom orderAt n bs) = placedFrom orderAt n bs := by
    have hid : ∀ x ∈ placedFrom orderAt n bs, sortWithin x = id x := by
      intro x hx
      obtain ⟨b, hb, i, -, -, rfl⟩ := mem_placedFrom hx
      exact hs b hb _
    rw [sortEach_eq_map, List.map_congr_left hid, List.map_id]
  unfold sort
  rw [heach, sortLevel_of_pairwise (pairwise_placedFrom hn hp)]

mutual

theorem settled_sortWithin : ∀ b : Block, (∀ x ∈ blocksIn [b], x.children.length < 2 ^ 31) →
    Settled (sortWithin b)
  | ⟨keys, order, children⟩, h => by
    obtain ⟨hlen, hbelow⟩ := forall_blocksIn_singleton.1 h
    intro o
    have hsettled := settled_sortEach children hbelow
    have hsort : sort (placedFrom orderAt 0 (sort children)) =
        placedFrom orderAt 0 (sort children) :=
      sort_placedFrom (by rw [Nat.zero_add, length_sort]; exact hlen) (sortLevel_pairwise _)
        fun x hx => hsettled x ((sortLevel_perm _).mem_iff.1 hx)
    rw [sortWithin, placed, sortWithin, ← sort, ← sort, hsort]

theorem settled_sortEach : ∀ bs : List Block, (∀ x ∈ blocksIn bs, x.children.length < 2 ^ 31) →
    ∀ x ∈ sortEach bs, Settled x
  | [], _ => nofun
  | b :: rest, h => by
    obtain ⟨hb, hrest⟩ := forall_blocksIn_cons.1 h
    rw [sortEach]
    exact List.forall_mem_cons.2 ⟨settled_sortWithin b hb, settled_sortEach rest hrest⟩

end

theorem sort_numbered_sort {tree : List Block} (hn : tree.length < 2 ^ 31)
    (h : ∀ x ∈ blocksIn tree, x.children.length < 2 ^ 31) :
    sort (numbered (sort tree)) = numbered (sort tree) :=
  sort_placedFrom (by rw [Nat.zero_add, length_sort]; exact hn) (sortLevel_pairwise _)
    fun x hx => settled_sortEach tree h x ((sortLevel_perm _).mem_iff.1 hx)

mutual

theorem written_placed (place : Nat → Int) (order : Int) (level : Nat) : ∀ b : Block,
    written level (placed place order b) = written level b
  | ⟨keys, _, children⟩ => by
    have hempty : (placedFrom place 0 children).isEmpty = children.isEmpty := by
      cases children <;> rfl
    rw [placed, written, written, writtenAll_placedFrom place 0 (level + 1) children, hempty]

theorem writtenAll_placedFrom (place : Nat → Int) (n level : Nat) : ∀ bs : List Block,
    writtenAll level (placedFrom place n bs) = writtenAll level bs
  | [] => rfl
  | b :: rest => by
    rw [placedFrom, writtenAll, writtenAll, written_placed place _ level b,
      writtenAll_placedFrom place (n + 1) level rest]

end

theorem render_eq_iff {as bs : List Block} :
    render as = render bs ↔ writtenAll 0 (sort as) = writtenAll 0 (sort bs) := by
  rw [← String.toList_inj, toList_render, toList_render]

theorem Faithful.render_parse {tree : List Block} (h : Faithful tree) :
    render (parse (render tree)).blocks = render tree := by
  rw [parse_render h.sound, render_eq_iff, sort_numbered_sort h.few h.fewBelow, numbered,
    writtenAll_placedFrom]

theorem Faithful.roundTrips {tree u : List Block} (h : Faithful u) (he : render u = render tree) :
    RoundTrips tree := by
  unfold RoundTrips parseBytes
  rw [Text.lossy_utf8, ← he, h.render_parse, parse_render h.sound]
  exact ⟨rfl, rfl⟩

/-! Where the words of a numbered tree and those of its sorted form first differ, the sorted form
opens a brace: only blocks of global options have been moved, to the front. -/

/-- At the first word where the lists differ, the second has an opening brace. -/
def DivergesAtBrace (vs ws : List String) : Prop :=
  ∃ pre v vs' ws', vs = pre ++ v :: vs' ∧ ws = pre ++ openBrace :: ws' ∧ v ≠ openBrace

theorem DivergesAtBrace.append_left {vs ws : List String} (h : DivergesAtBrace vs ws)
    (us : List String) : DivergesAtBrace (us ++ vs) (us ++ ws) := by
  obtain ⟨pre, v, vs', ws', rfl, rfl, hv⟩ := h
  exact ⟨us ++ pre, v, vs', ws', by simp, by simp, hv⟩

theorem DivergesAtBrace.append_right {vs ws : List String} (h : DivergesAtBrace vs ws)
    (us us' : List String) : DivergesAtBrace (vs ++ us) (ws ++ us') := by
  obtain ⟨pre, v, vs', ws', rfl, rfl, hv⟩ := h
  exact ⟨pre, v, vs' ++ us, ws' ++ us', by simp, by simp, hv⟩

/-- Equal lists followed by ones that diverge diverge, and so do lists that diverge followed by
anything. -/
theorem agree_or_diverge_append {vs ws vs' ws' : List String}
    (h : ws = vs ∨ DivergesAtBrace vs ws) (h' : ws' = vs' ∨ DivergesAtBrace vs' ws') :
    ws ++ ws' = vs ++ vs' ∨ DivergesAtBrace (vs ++ vs') (ws ++ ws') := by
  rcases h with rfl | h
  · rcases h' with rfl | h'
    · exact Or.inl rfl
    · exact Or.inr (h'.append_left ws)
  · exact Or.inr (h.append_right vs' ws')

theorem isEmpty_sort (bs : List Block) : (sort bs).isEmpty = bs.isEmpty := by
  have h := length_sort bs
  cases bs with
  | nil => rw [List.length_nil, List.length_eq_zero_iff] at h; rw [h]
  | cons b rest =>
    cases hs : sort (b :: rest) with
    | nil => rw [hs] at h; cases h
    | cons c more => rfl

/-- A filled block of global options begins with an opening brace. -/
theorem wordsOf_sortWithin_of_isGlobal {b : Block} (hg : b.isGlobal = true)
    (hf : b.keys ≠ [] ∨ b.children ≠ []) :
    (wordsOf (sortWithin b)).head? = some openBrace := by
  obtain ⟨keys, order, children⟩ := b
  obtain rfl : keys = [] := by simpa [Block.isGlobal] using hg
  have hc : children.isEmpty = false := by
    rcases hf with h | h
    · exact absurd rfl h
    · simpa using h
  rw [sortWithin, wordsOf, ← sort, isEmpty_sort, hc]
  rfl

theorem exists_keys_of_not_isGlobal {b : Block} (h : b.isGlobal = false) :
    ∃ key keys, b.keys = key :: keys := by
  cases hk : b.keys with
  | nil => rw [Block.isGlobal, hk] at h; cases h
  | cons key keys => exact ⟨key, keys, rfl⟩

def globalsFirst (bs : List Block) : List Block :=
  bs.filter Block.isGlobal ++ bs.filter fun b => !b.isGlobal

theorem globalsFirst_cons_of_isGlobal {b : Block} (h : b.isGlobal = true) (rest : List Block) :
    globalsFirst (b :: rest) = b :: globalsFirst rest := by
  simp [globalsFirst, h]

theorem pairwise_of_inPlace {bs : List Block} (h : InPlace bs) (hn : bs.length < 2 ^ 31) :
    bs.Pairwise fun a b => a.order < b.order := by
  have hrange : ((List.range bs.length).map orderAt).Pairwise (· < ·) := by
    rw [List.pairwise_map]
    refine List.pairwise_lt_range.imp_of_mem fun {i j} hi hj hij => ?_
    rw [orderAt_of_lt (Nat.lt_trans (List.mem_range.1 hi) hn),
      orderAt_of_lt (Nat.lt_trans (List.mem_range.1 hj) hn)]
    omega
  rw [← h, List.pairwise_map] at hrange
  exact hrange

/-- What is known of a block that was read from a short text. -/
structure Placed (b : Block) : Prop where
  wellRead : WellRead b
  filled : b.keys ≠ [] ∨ b.children ≠ []
  few : b.children.length < 2 ^ 31

theorem sort_eq_globalsFirst {bs : List Block} (h : InPlace bs) (hn : bs.length < 2 ^ 31) :
    sort bs = globalsFirst (sortEach bs) := by
  refine sortLevel_eq_filter ?_
  rw [sortEach_eq_map, List.pairwise_map]
  exact (pairwise_of_inPlace h hn).imp fun hab => by rwa [order_sortWithin, order_sortWithin]

/-- The first block of global options, wherever it stood, is written before the others. -/
theorem diverges_of_moved_global {b g : Block} {rest more : List Block}
    (hb : ∀ x ∈ blocksIn [b], Placed x) (hrest : ∀ x ∈ blocksIn rest, Placed x)
    (hg : b.isGlobal = false) (hf : (sortEach rest).filter Block.isGlobal = g :: more) :
    DivergesAtBrace (wordsOf b ++ wordsIn rest)
      (wordsIn (globalsFirst (sortWithin b :: sortEach rest))) := by
  obtain ⟨hmem, hgg⟩ := List.mem_filter.1 (hf ▸ List.mem_cons_self : g ∈ List.filter _ _)
  rw [sortEach_eq_map, List.mem_map] at hmem
  obtain ⟨a, ha, rfl⟩ := hmem
  rw [isGlobal_sortWithin] at hgg
  have hopen := wordsOf_sortWithin_of_isGlobal hgg (hrest a (mem_blocksIn ha)).filled
  obtain ⟨ws, hws⟩ := List.head?_eq_some_iff.1 hopen
  obtain ⟨key, keys, hk⟩ := exists_keys_of_not_isGlobal hg
  have hkey := (hb b (mem_blocksIn List.mem_cons_self)).wellRead.plain key (by simp [hk])
  obtain ⟨vs, hvs⟩ : ∃ vs, wordsOf b = key :: vs := by
    obtain ⟨_, order, children⟩ := b
    obtain rfl : _ = key :: keys := hk
    exact ⟨_, by rw [wordsOf, List.cons_append]⟩
  have hg' : (sortWithin b).isGlobal = false := by rw [isGlobal_sortWithin, hg]
  have hsorted : wordsIn (globalsFirst (sortWithin b :: sortEach rest)) = openBrace ::
      (ws ++ wordsIn (more ++ (sortWithin b :: sortEach rest).filter fun b => !b.isGlobal)) := by
    rw [globalsFirst, List.filter_cons_of_neg (by simp [hg']), hf, List.cons_append, wordsIn, hws]
    rfl
  exact ⟨[], key, vs ++ wordsIn rest, _, by rw [hvs]; rfl, hsorted, hkey.1⟩

mutual

/-- Sorted or not, a block is written with the same words up to where an opening brace is written
early. -/
theorem wordsOf_sortWithin : ∀ b : Block, (∀ x ∈ blocksIn [b], Placed x) →
    wordsOf (sortWithin b) = wordsOf b ∨ DivergesAtBrace (wordsOf b) (wordsOf (sortWithin b))
  | ⟨keys, order, children⟩, h => by
    obtain ⟨hb, hbelow⟩ := forall_blocksIn_singleton.1 h
    have hc := wordsIn_globalsFirst children hbelow
    rw [← sort_eq_globalsFirst hb.wellRead.inPlace hb.few] at hc
    rw [sortWithin, wordsOf, wordsOf, ← sort, isEmpty_sort]
    refine agree_or_diverge_append (Or.inl rfl) ?_
    cases children with
    | nil => exact Or.inl rfl
    | cons child children =>
      exact agree_or_diverge_append
        (agree_or_diverge_append (Or.inl (rfl : [openBrace] = [openBrace])) hc) (Or.inl rfl)

theorem wordsIn_globalsFirst : ∀ bs : List Block, (∀ x ∈ blocksIn bs, Placed x) →
    wordsIn (globalsFirst (sortEach bs)) = wordsIn bs ∨
      DivergesAtBrace (wordsIn bs) (wordsIn (globalsFirst (sortEach bs)))
  | [], _ => Or.inl rfl
  | b :: rest, h => by
    obtain ⟨hb, hrest⟩ := forall_blocksIn_cons.1 h
    have hwords := wordsOf_sortWithin b hb
    have hmore := wordsIn_globalsFirst rest hrest
    rw [sortEach, wordsIn]
    cases hg : b.isGlobal with
    | true =>
      rw [globalsFirst_cons_of_isGlobal (by rw [isGlobal_sortWithin, hg]), wordsIn]
      exact agree_or_diverge_append hwords hmore
    | false =>
      have hg' : (sortWithin b).isGlobal = false := by rw [isGlobal_sortWithin, hg]
      cases hf : (sortEach rest).filter Block.isGlobal with
      | nil =>
        have hcons : globalsFirst (sortWithin b :: sortEach rest) =
            sortWithin b :: globalsFirst (sortEach rest) := by
          simp [globalsFirst, hg', hf]
        rw [hcons, wordsIn]
        exact agree_or_diverge_append hwords hmore
      | cons g more => exact Or.inr (diverges_of_moved_global hb hrest hg hf)

end

/-- A word that comes instead of the next one of a list is an opening brace if the lists diverge at
one. -/
theorem eq_openBrace_of_diverges {vs ws pre more post : List String} {key : String}
    (h : DivergesAtBrace vs ws) (hv : vs = pre ++ more) (hw : ws = pre ++ key :: post)
    (hne : more.head? ≠ some key) : key = openBrace := by
  obtain ⟨pre', v, vs', ws', rfl, rfl, hvb⟩ := h
  induction pre generalizing pre' with
  | nil =>
    cases pre' with
    | nil => exact (List.cons.inj hw).1.symm
    | cons p pre' =>
      rw [List.nil_append] at hv hw
      rw [← hv] at hne
      exact absurd (congrArg some (List.cons.inj hw).1) hne
  | cons p pre ih =>
    cases pre' with
    | nil =>
      exact absurd ((List.cons.inj hv).1.trans (List.cons.inj hw).1.symm) hvb
    | cons p' pre' => exact ih pre' (List.cons.inj hv).2 (List.cons.inj hw).2

/-! The text of a tree is at least as long as any list of siblings in it. -/

theorem length_written_pos (level : Nat) (b : Block) : 0 < (written level b).length := by
  cases b
  rw [written, List.length_append]
  exact Nat.succ_pos _

mutual

theorem length_blocksWithin_le (level : Nat) : ∀ b : Block,
    (blocksWithin b).length ≤ (written level b).length
  | ⟨keys, order, children⟩ => by
    have h := length_blocksIn_le (level + 1) children
    cases children with
    | nil => exact length_written_pos level _
    | cons child children =>
      rw [blocksWithin, written]
      simp only [List.length_cons, List.length_append, List.isEmpty_cons, Bool.false_eq_true,
        if_false, List.length_nil]
      omega

theorem length_blocksIn_le (level : Nat) : ∀ bs : List Block,
    (blocksIn bs).length ≤ (writtenAll level bs).length
  | [] => Nat.le_refl 0
  | b :: rest => by
    have hb := length_blocksWithin_le level b
    have hrest := length_blocksIn_le level rest
    rw [blocksIn, writtenAll, List.length_append, List.length_append]
    exact Nat.add_le_add hb hrest

end

theorem length_le_length_blocksIn (bs : List Block) : bs.length ≤ (blocksIn bs).length := by
  induction bs with
  | nil => exact Nat.le_refl 0
  | cons b rest ih =>
    obtain ⟨keys, order, children⟩ := b
    rw [blocksIn, blocksWithin, List.length_append]
    simp only [List.length_cons]
    omega

mutual

theorem length_children_within : ∀ b : Block, ∀ x ∈ blocksWithin b,
    x.children.length ≤ (blocksWithin b).length
  | ⟨keys, order, children⟩, x, hx => by
    rw [blocksWithin, List.length_cons] at *
    rcases List.mem_cons.1 hx with rfl | hx
    · exact Nat.le_succ_of_le (length_le_length_blocksIn children)
    · exact Nat.le_succ_of_le (length_children_in children x hx)

theorem length_children_in : ∀ bs : List Block, ∀ x ∈ blocksIn bs,
    x.children.length ≤ (blocksIn bs).length
  | [], x, hx => nomatch hx
  | b :: rest, x, hx => by
    rw [blocksIn, List.length_append] at *
    rcases List.mem_append.1 hx with hx | hx
    · exact Nat.le_trans (length_children_within b x hx) (Nat.le_add_right _ _)
    · exact Nat.le_trans (length_children_in rest x hx) (Nat.le_add_left _ _)

end

theorem few_of_length_lt {tree : List Block} (h : (render tree).length < 2 ^ 31) :
    tree.length < 2 ^ 31 ∧ ∀ b ∈ blocksIn tree, b.children.length < 2 ^ 31 := by
  have hlen : (blocksIn (sort tree)).length < 2 ^ 31 := by
    rw [← String.length_toList, toList_render] at h
    exact Nat.lt_of_le_of_lt (length_blocksIn_le 0 (sort tree)) h
  constructor
  · rw [← length_sort]
    exact Nat.lt_of_le_of_lt (length_le_length_blocksIn (sort tree)) hlen
  · refine (forall_blocksIn_sort (fun a b he ha => ?_) tree).1 fun b hb =>
      Nat.lt_of_le_of_lt (length_children_in (sort tree) b hb) hlen
    rw [← (Prod.mk.inj he).2]
    exact ha

/-- A text of moderate length that is read without a fault and written again unchanged is the text
of a faithful tree, namely of the tree that is read from it. -/
theorem faithful_of_parse {text : String} {bs : List Block} (hlen : text.length < 2 ^ 31)
    (hparse : parse text = ⟨bs, none⟩) (hrender : render bs = text) : Faithful bs := by
  obtain ⟨hplace, hwell, hwords⟩ := wellRead_of_parse hparse
  have hlays : Lays (wordsIn (sort bs)) text.toList := by
    have h := Lays.writtenAll 0 (sort bs) Lays.nil
    rwa [List.append_nil, List.append_nil, ← toList_render, hrender] at h
  have hperm := wordsIn_sort_perm bs
  have hfew := few_of_length_lt (hrender ▸ hlen : (render bs).length < 2 ^ 31)
  -- Every opening brace that is read is one that is written, so no empty pair of braces is read.
  have hopen : charCount '\x7b' ((tokens text).map (·.text)) ≤ charCount '\x7b' (wordsIn bs) := by
    rw [← charCount_perm _ hperm, ← hlays.count (by decide) (by decide) (by decide) (by decide)]
    exact charCount_tokensFrom_le _ 1 _
  obtain ⟨hread, hfilled⟩ := hwords.resolve_right (Nat.not_lt.2 hopen)
  have hplaced : ∀ b ∈ blocksIn bs, Placed b := fun b hb =>
    ⟨hwell b hb, hfilled b hb, hfew.2 b hb⟩
  unfold tokens at hread
  rcases hlays.read 1 with ⟨hlegible, -⟩ | ⟨pre, key, post, hws, hbad, ⟨more, hmore, hne⟩ | hlost⟩
  · refine ⟨fun b hb => ⟨fun key hk => hlegible key ?_, (hwell b hb).plain, hfilled b hb⟩, hfew.1,
      hfew.2⟩
    exact hperm.symm.subset (mem_wordsIn hb hk)
  · -- The first bad word would have to be a brace, which is read as it is written.
    rw [hread] at hmore
    have hcases := wordsIn_globalsFirst bs hplaced
    rw [← sort_eq_globalsFirst hplace hfew.1] at hcases
    rcases hcases with heq | hdiv
    · rw [heq, hmore] at hws
      exact absurd (by rw [List.append_cancel_left hws, List.head?_cons]) hne
    · rw [eq_openBrace_of_diverges hdiv hmore hws hne] at hbad
      exact absurd (by decide) hbad
  · rw [hread, charCount_perm _ hperm] at hlost
    exact absurd hlost (Nat.lt_irrefl _)

/-- A tree round-trips if its text is that of a faithful tree, and only then if its text is of
moderate length. -/
theorem roundTrips_iff_faithful (tree : List Block) :
    ((∃ u, Faithful u ∧ render u = render tree) → RoundTrips tree) ∧
      ((render tree).length < 2 ^ 31 → RoundTrips tree →
        ∃ u, Faithful u ∧ render u = render tree) := by
  refine ⟨fun ⟨u, hu, he⟩ => hu.roundTrips he, fun hlen h => ?_⟩
  unfold RoundTrips parseBytes at h
  rw [Text.lossy_utf8] at h
  obtain ⟨hfault, hrender⟩ := h
  exact ⟨_, faithful_of_parse hlen (by rw [← hfault]) hrender, hrender⟩

theorem sort_twoSites : sort twoSites =
    [⟨[], 9, [⟨[""], 0, [⟨["debug"], 0, []⟩]⟩, ⟨["email", "x@a.example"], 0, []⟩]⟩,
      ⟨["a.example", "say \"hi\nthere\""], 7, [⟨["root", "*", "/srv"], 3, []⟩]⟩] := by
  have hnil : sortLevel [] = [] := sortLevel_of_pairwise .nil
  have hoptions : sortLevel [⟨["email", "x@a.example"], 0, []⟩, ⟨[""], 0, [⟨["debug"], 0, []⟩]⟩] =
      [⟨[""], 0, [⟨["debug"], 0, []⟩]⟩, ⟨["email", "x@a.example"], 0, []⟩] :=
    (sortLevel_eq_of_perm (.swap _ _ [])).trans (sortLevel_of_pairwise (by decide))
  simp only [sort, twoSites, sortEach, sortWithin, sortLevel_singleton, hnil, hoptions]
  exact (sortLevel_eq_of_perm (.swap _ _ [])).trans (sortLevel_of_pairwise (by decide))

theorem length_render_twoSites : (render twoSites).length < 2 ^ 31 := by
  rw [← String.length_toList, toList_render, sort_twoSites]
  decide

theorem roundTrips_twoSites : RoundTrips twoSites ∧ ∃ u, Faithful u ∧ render u = render twoSites :=
  have h := (roundTrips_iff_faithful twoSites).1 ⟨twoSites, by decide, rfl⟩
  ⟨h, (roundTrips_iff_faithful twoSites).2 length_render_twoSites h⟩

/-- A word that was read from between quotes is written without them, and then it is a comment. -/
theorem not_roundTrips_of_comment : parse "\"#a\"\n" = ⟨[⟨["#a"], 0, []⟩], none⟩ ∧
    ¬RoundTrips (parse "\"#a\"\n").blocks := by
  constructor
  · decide +kernel
  · decide +kernel

end ProxyFleet.Caddyfile
