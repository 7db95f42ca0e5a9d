import ProxyFleet.Label.Tree
import ProxyFleet.Proofs.Caddyfile.Marker
import ProxyFleet.Proofs.Fleet.Isolation

/-!
What is ahead of a site and not self-contained reaches into it: some site with the same name and the
same place is lost. It is found with a probe, a site that holds nothing but a marker larger than all
else in the text.
-/

namespace ProxyFleet.Fleet

open Caddyfile

def refilled (b : Block) (children : List Block) : Block := { b with children := children }

/-- No word of the block's own line is quoted or has a backtick. -/
def Plain (b : Block) : Prop :=
  ∀ key ∈ b.keys, needsQuotes key.toList = false ∧ backtick ∉ key.toList

theorem compare_refilled {a b : Block} (h : a.keys ≠ b.keys) (children : List Block) :
    a.compare (refilled b children) = a.compare b := by
  obtain ⟨ka, oa, ca⟩ := a
  obtain ⟨kb, ob, cb⟩ := b
  have hkeys : compare ka kb ≠ .eq := fun he => h (Std.LawfulEqOrd.eq_of_compare he)
  unfold refilled
  rw [Block.compare, Block.compare]
  cases hk : compare ka kb with
  | eq => exact absurd hk hkeys
  | lt => rfl
  | gt => rfl

theorem refilled_compare {a b : Block} (h : a.keys ≠ b.keys) (children : List Block) :
    (refilled b children).compare a = b.compare a := by
  rw [Block.compare_swap, compare_refilled h, ← Block.compare_swap]

theorem sectionOf_refilled (b : Block) (children : List Block) :
    sectionOf (refilled b children) = sectionOf b := rfl

theorem ahead_refilled {a b : Block} (h : a.keys ≠ b.keys) (children : List Block) :
    (Ahead a (refilled b children) ↔ Ahead a b) ∧ (Ahead (refilled b children) a ↔ Ahead b a) := by
  unfold Ahead
  rw [sectionOf_refilled, compare_refilled h, refilled_compare h]
  exact ⟨Iff.rfl, Iff.rfl⟩

theorem sortWithin_refilled (b : Block) (children : List Block) :
    sortWithin (refilled b children) = refilled (sortWithin b) (sort children) := by
  cases b
  rfl

theorem keys_sortWithin (b : Block) : (sortWithin b).keys = b.keys := by
  cases b
  rfl

theorem perm_of_arranged {b : Block} {rest pre post : List Block}
    (h : arranged (b :: rest) = pre ++ sortWithin b :: post) :
    (pre ++ post).Perm (rest.map sortWithin) :=
  (List.perm_middle.symm.trans (h ▸ arranged_perm (b :: rest))).cons_inv

/-- The place of a block among blocks with other names does not depend on its children. -/
theorem arranged_refilled {b : Block} {rest pre post : List Block}
    (hnew : ∀ w ∈ rest, b.firstKey ≠ w.firstKey)
    (h : arranged (b :: rest) = pre ++ sortWithin b :: post) (children : List Block) :
    arranged (refilled b children :: rest) =
      pre ++ sortWithin (refilled b children) :: post := by
  symm
  have hperm := perm_of_arranged h
  have hkeys : ∀ x ∈ pre ++ post, x.keys ≠ (sortWithin b).keys := by
    intro x hx he
    obtain ⟨w, hw, rfl⟩ := List.mem_map.1 (hperm.mem_iff.1 hx)
    rw [keys_sortWithin, keys_sortWithin] at he
    exact hnew w hw (by rw [Block.firstKey, Block.firstKey, he])
  rw [List.forall_mem_append] at hkeys
  apply eq_arranged
  · exact List.perm_middle.trans (hperm.cons _)
  · have hp := h ▸ arranged_pairwise (b :: rest)
    rw [sortWithin_refilled]
    rw [List.pairwise_append, List.pairwise_cons] at hp ⊢
    obtain ⟨hpre, ⟨hb, hpost⟩, hcross⟩ := hp
    refine ⟨hpre, ⟨fun x hx => (ahead_refilled (hkeys.2 x hx) _).2.2 (hb x hx), hpost⟩, ?_⟩
    intro a ha x hx
    rcases List.mem_cons.1 hx with rfl | hx
    · exact (ahead_refilled (hkeys.1 a ha) _).1.2 (hcross a ha _ List.mem_cons_self)
    · exact hcross a ha x (List.mem_cons_of_mem _ hx)

/-- A marker that is left was read. -/
theorem marker_mem_texts {n : Nat} (hn : 0 < n) {text : String} {before after : List Char}
    (h : (kept text).toList = before ++ (writtenKey (mark n) ++ after)) :
    marker n ∈ texts text.toList := by
  have hmem := (wordsIn_sortEach_perm _).mem_iff.1 (marker_mem_of_lays hn (lays_kept text) h)
  obtain ⟨k, hk⟩ := wordsIn_parse text
  rcases List.mem_append.1 (hk.subset hmem) with hread | hclose
  · exact hread
  · exact absurd (List.eq_of_mem_replicate hclose) (marker_ne (by decide))

def probe (b : Block) (n : Nat) : Block := refilled b [⟨[marker n], naturalOrder, []⟩]

theorem sortWithin_probe (b : Block) (n : Nat) : sortWithin (probe b n) = probe b n := by
  unfold probe refilled
  rw [sortWithin, sortEach, sortEach, sortLevel_singleton, sortWithin, sortEach,
    sortLevel, List.mergeSort_nil]

def probeFront (b : Block) (level : Nat) : List Char :=
  List.replicate level '\t' ++ (writtenKeys b.keys ++ ((if b.keys.isEmpty then [] else [' ']) ++
    '\x7b' :: '\n' :: List.replicate (level + 1) '\t'))

theorem written_probe (b : Block) (level n : Nat) : written level (probe b n) =
    probeFront b level ++ (writtenKey (mark n) ++
      '\n' :: (List.replicate level '\t' ++ ['\x7d', '\n'])) := by
  unfold probe refilled
  rw [written, writtenAll, writtenAll, written, writtenKeys, marker,
    String.toList_ofList, probeFront]
  simp

theorem faithful_probe {b : Block} (h : Faithful [b]) (n : Nat) : Faithful [probe b n] := by
  obtain ⟨keys, order, children⟩ := b
  have hb := (forall_blocksIn_singleton.1 h.sound).1
  have hchild : Sound ⟨[marker n], naturalOrder, []⟩ := by
    refine ⟨List.forall_mem_singleton.2 (legible_marker n), List.forall_mem_singleton.2 ?_,
      Or.inl (List.cons_ne_nil _ _)⟩
    exact ⟨marker_ne (by decide), marker_ne (by decide)⟩
  refine ⟨?_, h.few, ?_⟩
  · unfold probe refilled
    rw [forall_blocksIn_singleton, forall_blocksIn_singleton]
    exact ⟨⟨hb.legible, hb.plain, Or.inr (List.cons_ne_nil _ _)⟩, hchild, nofun⟩
  · unfold probe refilled
    rw [forall_blocksIn_singleton, forall_blocksIn_singleton]
    exact ⟨(by decide : 1 < 2 ^ 31), (by decide : 0 < 2 ^ 31), nofun⟩

theorem mem_writtenKeys {keys : List String} (h : ∀ key ∈ keys, needsQuotes key.toList = false)
    {c : Char} (hc : c ∈ writtenKeys keys) : c = ' ' ∨ ∃ key ∈ keys, c ∈ key.toList := by
  have hw : ∀ key ∈ keys, writtenKey key.toList = key.toList := by
    intro key hk
    rw [writtenKey, h key hk]
    rfl
  induction keys with
  | nil => cases hc
  | cons key keys ih =>
    rw [List.forall_mem_cons] at h hw
    have hrest : c ∈ writtenKeys keys → c = ' ' ∨ ∃ k ∈ key :: keys, c ∈ k.toList := by
      intro hc
      rcases ih h.2 hc hw.2 with he | ⟨k, hk, hc⟩
      · exact Or.inl he
      · exact Or.inr ⟨k, List.mem_cons_of_mem key hk, hc⟩
    cases keys with
    | nil =>
      rw [writtenKeys, hw.1] at hc
      exact Or.inr ⟨key, List.mem_cons_self, hc⟩
    | cons k keys =>
      rw [writtenKeys, hw.1, List.mem_append, List.mem_cons] at hc
      · rcases hc with hc | he | hc
        · exact Or.inr ⟨key, List.mem_cons_self, hc⟩
        · exact Or.inl he
        · exact hrest hc
      · exact List.cons_ne_nil k keys

/-- A plain block is written without quotes and backticks up to its first child. -/
theorem not_mem_probeFront {b : Block} (h : Plain b) {c : Char} (hc : c = '"' ∨ c = backtick) :
    c ∉ probeFront b 0 := by
  have hkeys : c ∉ writtenKeys b.keys := by
    intro hm
    rcases mem_writtenKeys (fun key hk => (h key hk).1) hm with rfl | ⟨key, hk, hm⟩
    · rcases hc with hc | hc <;> exact absurd hc (by decide)
    · rcases hc with rfl | rfl
      · exact ((needsQuotes_eq_false_iff.1 (h key hk).1).2 _ hm).2.1 rfl
      · exact (h key hk).2 hm
  unfold probeFront
  rcases hc with rfl | rfl <;> split <;> simpa [backtick] using hkeys

theorem count_probeFront (b : Block) : (probeFront b 0).count 'a' ≤ (writtenKeys b.keys).length := by
  have hle : (writtenKeys b.keys).count 'a' ≤ (writtenKeys b.keys).length := List.count_le_length
  unfold probeFront
  split <;> simpa using hle

/-- The marker cannot stand both one tab in and more than one. -/
theorem append_probeFront_ne (b : Block) (level : Nat) (before before' : List Char) :
    before ++ probeFront b 0 ≠ before' ++ probeFront b (level + 1) := by
  intro h
  have hzero : ∃ cs, before ++ probeFront b 0 = cs ++ ['\n', '\t'] :=
    ⟨before ++ (writtenKeys b.keys ++ ((if b.keys.isEmpty then [] else [' ']) ++ ['\x7b'])), by
      simp [probeFront]⟩
  have hsucc : ∃ cs, before' ++ probeFront b (level + 1) = cs ++ ['\t', '\t'] := by
    refine ⟨before' ++ (List.replicate (level + 1) '\t' ++ (writtenKeys b.keys ++
      ((if b.keys.isEmpty then [] else [' ']) ++ '\x7b' :: '\n' :: List.replicate level '\t'))), ?_⟩
    unfold probeFront
    rw [List.replicate_succ' (n := level + 1), List.replicate_succ' (n := level)]
    simp
  obtain ⟨cs, hcs⟩ := hzero
  obtain ⟨ds, hds⟩ := hsucc
  rw [hcs, hds] at h
  exact absurd (List.append_inj_right' h rfl) (by decide)

/-- Behind lines that leave braces open, a probe is read as a block of a deeper level and written
further in. -/
theorem exists_written_of_depth {cs : List Char} (hc : Closed cs) (hw : WholeLines cs)
    {level : Nat} (hd : depth? 0 (texts cs) = some level) {b : Block} (hf : Faithful [b]) (n : Nat)
    (rest : List Char) :
    ∃ before after, (kept (String.ofList (cs ++ (written 0 (probe b n) ++ rest)))).toList =
      before ++ written level (probe b n) ++ after := by
  have hprobe := faithful_probe hf n
  obtain ⟨order, hbelow⟩ := hc.below_parse hw hd hprobe.sound rest
  have hsettled := settled_sortWithin (probe b n) hprobe.fewBelow
  rw [sortWithin_probe] at hsettled
  have hsort := (hbelow.sort (hsettled order)).mono fun x hx => (sortLevel_perm _).mem_iff.1 hx
  obtain ⟨before, after, hwritten⟩ := hsort.writtenAll 0
  refine ⟨before, after, ?_⟩
  rw [toList_kept, hwritten, written_placed, Nat.zero_add]

theorem count_written_probe (b : Block) (n : Nat) :
    (written 0 (probe b n)).count 'a' ≤ (writtenKeys b.keys).length + 2 * n := by
  have hfront := count_probeFront b
  rw [written_probe, writtenKey_mark, List.count_append, List.count_append, List.count_append,
    List.count_cons_of_ne (by decide), count_mark]
  simp only [List.replicate_zero, List.nil_append]
  have htail : (['\n', '\x7d', '\n'] : List Char).count 'a' = 0 := by decide
  have htick : [backtick].count 'a' = 0 := by decide
  omega

/-- A probe has its marker at one place of a text that is not much longer. -/
theorem level_eq_zero {b : Block} {n level : Nat} {before before' after after' cs : List Char}
    (h : cs = before ++ written 0 (probe b n) ++ after)
    (h' : cs = before' ++ written level (probe b n) ++ after') (hcount : cs.count 'a' < 4 * n) :
    level = 0 := by
  cases level with
  | zero => rfl
  | succ level =>
    have hshape : ∀ (l : Nat) (before after : List Char),
        before ++ written l (probe b n) ++ after = (before ++ probeFront b l) ++
          (backtick :: mark n ++ (backtick :: '\n' :: (List.replicate l '\t' ++
            '\x7d' :: '\n' :: after))) := by
      intro l before after
      rw [written_probe, writtenKey_mark]
      simp
    rw [hshape] at h h'
    exact absurd (eq_of_count_lt (h.symm.trans h') (h ▸ hcount))
      (append_probeFront_ne b level before before')

/-- With a probe that is larger than all around it, one marker is left at most. -/
theorem count_kept_probe_lt {cs rest : List Char} {b : Block} {n : Nat}
    (hn : cs.length + (writtenKeys b.keys).length + rest.length < n) :
    (kept (String.ofList (cs ++ (written 0 (probe b n) ++ rest)))).toList.count 'a' < 4 * n := by
  refine Nat.lt_of_le_of_lt (count_kept_le (by decide) (by decide) (by decide) (by decide)
    (by decide) _) ?_
  have hcs : cs.count 'a' ≤ cs.length := List.count_le_length
  have hrest : rest.count 'a' ≤ rest.length := List.count_le_length
  have hprobe := count_written_probe b n
  rw [String.toList_ofList, List.count_append, List.count_append]
  omega

/-- No word that begins in lines which leave a marker behind them alone goes on behind them. -/
theorem closed_of_marker_mem {cs rest : List Char} (hw : WholeLines cs) {b : Block} (hp : Plain b)
    {n : Nat} (hn : cs.length + rest.length < n)
    (h : marker (n + 1) ∈ texts (cs ++ (written 0 (probe b (n + 1)) ++ rest))) : Closed cs := by
  rcases tokensFrom_append hw 1 with ⟨ts, hts, -⟩ | ⟨ts, l, first, scan, hscan, happ⟩
  · exact closed_of_tokensFrom hts
  · rw [written_probe, List.append_assoc, List.append_assoc] at h
    refine absurd h (marker_not_mem_of_goesOn hscan happ (not_mem_probeFront hp (Or.inl rfl))
      (not_mem_probeFront hp (Or.inr rfl)) (by simp [probeFront]) (by omega) ?_)
    simp
    omega

/-- Lines that leave the marker of a probe behind them alone are self-contained. -/
theorem selfContained_of_occursIn {cs rest : List Char} (hw : WholeLines cs) {b : Block}
    (hf : Faithful [b]) (hp : Plain b) {n : Nat}
    (hn : cs.length + (writtenKeys b.keys).length + rest.length < n)
    (h : Text.occursIn (written 0 (probe b (n + 1)))
      (kept (String.ofList (cs ++ (written 0 (probe b (n + 1)) ++ rest)))).toList = true) :
    SelfContained cs := by
  obtain ⟨before, after, hkept⟩ := Text.occursIn_iff.1 h
  have hleft : (kept (String.ofList (cs ++ (written 0 (probe b (n + 1)) ++ rest)))).toList =
      (before ++ probeFront b 0) ++ (writtenKey (mark (n + 1)) ++
        ('\n' :: (['\x7d', '\n'] ++ after))) := by
    rw [hkept, written_probe]
    simp
  have hread := marker_mem_texts (Nat.succ_pos n) hleft
  rw [String.toList_ofList] at hread
  have hclosed := closed_of_marker_mem hw hp (by omega) hread
  refine ⟨hclosed, (fault_parse_iff cs).2 ?_⟩
  cases hd : depth? 0 (texts cs) with
  | none =>
    -- Nothing behind `cs` is read.
    rw [kept_eq, hclosed.parse_append hw hd, ← kept_eq] at hleft
    have hshort := marker_mem_texts (Nat.succ_pos n) hleft
    rw [String.toList_ofList] at hshort
    exact absurd hshort (marker_not_mem_texts (by omega))
  | some level =>
    -- The probe is read inside of a block of `cs`, and so written further in.
    obtain ⟨before', after', hdeep⟩ := exists_written_of_depth hclosed hw hd hf (n + 1) rest
    rw [level_eq_zero hkept hdeep (count_kept_probe_lt (Nat.lt_succ_of_lt hn))]

theorem toList_text_singleton (b : Block) :
    (Sections.ofTree [b]).text.toList = (renderBlock b).toList := by
  rw [toList_text, List.perm_singleton.1 (arranged_perm [b]), toList_renderBlock, writtenAll,
    writtenAll, List.append_nil]

theorem occursIn_kept_alone {b : Block} (h : Faithful [b]) :
    Text.occursIn (renderBlock b).toList (kept (Sections.ofTree [b]).text).toList = true := by
  have htext : (Sections.ofTree [b]).text.toList = [] ++ ((renderBlock b).toList ++ []) := by
    rw [toList_text_singleton, List.append_nil, List.nil_append]
  exact occursIn_kept htext selfContained_nil nofun h

theorem renderBlock_probe_ne (b : Block) (n : Nat) : renderBlock (probe b n) ≠ "" := by
  intro he
  have hlist := congrArg String.toList he
  rw [toList_renderBlock, sortWithin_probe, written_probe, writtenKey_mark] at hlist
  simp at hlist

/-- Each of the sites is faithful and has the words and the place of a block of `tree`. -/
def SitesOf (tree sites : List Block) : Prop :=
  ∀ s ∈ sites, Faithful [s] ∧ ∃ b ∈ tree, s = refilled b s.children

theorem newNames_of_sitesOf {tree sites other : List Block} (h : NewNames tree other)
    (hs : SitesOf tree sites) : NewNames sites other := by
  intro s hmem w hw
  obtain ⟨-, b, hb, he⟩ := hs s hmem
  rw [he]
  exact h b hb w hw

theorem ne_firstKey_of_mem_merge {tree other : List Block} (h : NewNames tree other) {b : Block}
    (hb : b ∈ tree) : ∀ w ∈ merge [] other, b.firstKey ≠ w.firstKey := by
  intro w hw he
  obtain ⟨v, hv, hname⟩ := firstKey_of_mem_merge hw
  exact h b hb v hv (he.trans hname)

/-- What is in a block has no part in what is ahead of it. -/
theorem ClearAhead.refilled {tree other : List Block} (h : NewNames tree other) {b : Block}
    (hb : b ∈ tree) (hc : ClearAhead other b) (children : List Block) :
    ClearAhead other (refilled b children) := by
  intro pre post ha
  have hmerged := ne_firstKey_of_mem_merge h hb
  have hback := arranged_refilled (b := Fleet.refilled b children) hmerged ha b.children
  cases b
  exact hc pre post hback

/-- A workload that leaves probes of every size alone is clear ahead of them. -/
theorem clearAhead_of_isolated {tree other : List Block} (h : NewNames tree other) {b : Block}
    (hb : b ∈ tree) (hf : Faithful [b]) (hp : Plain b)
    (hi : ∀ n, Isolated [probe b n] other) : ClearAhead other b := by
  intro pre post ha
  obtain ⟨n, hn⟩ : ∃ n, (writtenAll 0 pre).length + (writtenKeys b.keys).length +
    (writtenAll 0 post).length < n := ⟨_, Nat.lt_succ_self _⟩
  have hnew : NewNames [probe b (n + 1)] other := by
    intro s hs w hw
    rw [List.mem_singleton.1 hs]
    exact h b hb w hw
  have hplace : arranged (probe b (n + 1) :: merge [] other) =
      pre ++ sortWithin (probe b (n + 1)) :: post :=
    arranged_refilled (ne_firstKey_of_mem_merge h hb) ha _
  have htext : (Sections.ofTree (merge [probe b (n + 1)] other)).text =
      String.ofList (writtenAll 0 pre ++ (written 0 (probe b (n + 1)) ++ writtenAll 0 post)) := by
    apply String.toList_injective
    rw [merge_eq_append hnew, toList_text, String.toList_ofList, List.singleton_append, hplace,
      sortWithin_probe, writtenAll_append, writtenAll]
  have hleft := hi (n + 1) _ (List.mem_singleton_self _) (renderBlock_probe_ne b (n + 1))
    (occursIn_kept_alone (faithful_probe hf (n + 1)))
  rw [toList_renderBlock, sortWithin_probe, htext] at hleft
  exact selfContained_of_occursIn (wholeLines_writtenAll 0 pre) hf hp hn hleft

theorem clearAhead_of_sound {other : List Block} (h : ∀ x ∈ blocksIn (merge [] other), Sound x)
    (b : Block) : ClearAhead other b := by
  intro pre post ha
  apply selfContained_writtenAll
  rw [forall_blocksIn_iff]
  intro y hy
  obtain ⟨w, hw, rfl⟩ := List.mem_map.1
    ((perm_of_arranged ha).mem_iff.1 (List.mem_append_left post hy))
  have hsound : ∀ x ∈ blocksIn [w], Sound x := fun x hx =>
    forall_blocksIn_iff.1 h w hw x (by simpa [blocksIn] using hx)
  have hsorted := sound_sortWithin hsound
  simpa [blocksIn] using hsorted

/-- A workload whose words are all read as they are written leaves the sites of others alone. -/
theorem isolated_of_sound {tree other : List Block} (h : NewNames tree other)
    (hf : ∀ b ∈ tree, Faithful [b]) (ho : ∀ x ∈ blocksIn (merge [] other), Sound x) :
    Isolated tree other :=
  isolated_of_clearAhead h hf fun b _ => clearAhead_of_sound ho b

/-- Sites are isolated from a workload if what it puts ahead of each is self-contained, whatever is
in the sites; and as far as their own words are plain, only then. -/
theorem isolated_iff_clearAhead {tree other : List Block} (h : NewNames tree other)
    (hf : ∀ b ∈ tree, Faithful [b]) :
    ((∀ b ∈ tree, ClearAhead other b) → ∀ sites, SitesOf tree sites → Isolated sites other) ∧
      ((∀ b ∈ tree, Plain b) → (∀ sites, SitesOf tree sites → Isolated sites other) →
        ∀ b ∈ tree, ClearAhead other b) := by
  constructor
  · intro hc sites hs
    refine isolated_of_clearAhead (newNames_of_sitesOf h hs) (fun s hmem => (hs s hmem).1) ?_
    intro s hmem
    obtain ⟨-, b, hb, he⟩ := hs s hmem
    rw [he]
    exact (hc b hb).refilled h hb s.children
  · intro hp hi b hb
    refine clearAhead_of_isolated h hb (hf b hb) (hp b hb) fun n => hi _ ?_
    intro s hs
    rw [List.mem_singleton.1 hs]
    exact ⟨faithful_probe (hf b hb) n, b, hb, rfl⟩

def respondingSite (keys : List String) (answer : String) : Block :=
  ⟨keys, naturalOrder, [⟨["respond", answer], naturalOrder, []⟩]⟩

/-- A number sign that is quoted and an escaped quote do no harm. -/
theorem isolated_respondingSite :
    Isolated [respondingSite ["b.example"] "ok"] [respondingSite ["a.example"] "# \"a\" \x7d"] := by
  have hnew : NewNames [respondingSite ["b.example"] "ok"]
      [respondingSite ["a.example"] "# \"a\" \x7d"] := by decide
  refine (isolated_iff_clearAhead hnew (by decide +kernel)).1 ?_ _ ?_
  · intro b _
    exact clearAhead_of_sound (by decide +kernel) b
  · intro s hs
    rw [List.mem_singleton.1 hs]
    exact ⟨by decide +kernel, _, List.mem_singleton_self _, rfl⟩

/-- A quoted number sign in a label hides the brace behind it, so that the next one closes nothing
and no later site is read. -/
theorem not_isolated_of_comment : ¬∀ (fs fs' : Template.Functions) (data data' : Json)
    (labels labels' : Keyed String) (tree other : List Block),
    Label.blocks fs data labels = .ok tree → Label.blocks fs' data' labels' = .ok other →
    NewNames tree other → Isolated tree other := by
  intro h
  have hlost := h .none .none .null .null
    (Keyed.ofList [("caddy", "b.example"), ("caddy.respond", "ok")])
    (Keyed.ofList [("caddy", "a.example \"#x\""), ("caddy.respond", "ok")])
    [respondingSite ["b.example"] "ok"] [respondingSite ["a.example", "#x"] "ok"]
    (by decide +kernel) (by decide +kernel) (by decide) _ (List.mem_singleton_self _)
    (by decide +kernel) (occursIn_kept_alone (by decide +kernel))
  have hplaces : [respondingSite ["a.example", "#x"] "ok", respondingSite ["b.example"] "ok"] =
      arranged (merge [respondingSite ["b.example"] "ok"]
        [respondingSite ["a.example", "#x"] "ok"]) :=
    eq_arranged (by decide +kernel) (by decide +kernel)
  have htext : (Sections.ofTree (merge [respondingSite ["b.example"] "ok"]
      [respondingSite ["a.example", "#x"] "ok"])).text =
      "a.example #x \x7b\n\trespond ok\n\x7d\nb.example \x7b\n\trespond ok\n\x7d\n" := by
    apply String.toList_injective
    rw [toList_text, ← hplaces]
    decide +kernel
  rw [htext] at hlost
  exact absurd hlost (by decide +kernel)

end ProxyFleet.Fleet
