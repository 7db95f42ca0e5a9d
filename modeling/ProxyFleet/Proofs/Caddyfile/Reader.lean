import ProxyFleet.Proofs.Caddyfile.Layout
import ProxyFleet.Proofs.Caddyfile.ReadBack

/-!
What is read makes up the words that were read. Nothing gets lost on the way but the braces of a block
that has nothing between them; so as many opening braces are read as are needed for the blocks with
children, or more. Blocks are numbered as they come, and braces are never words of a block.
-/

namespace ProxyFleet.Caddyfile

/-- The siblings have the orders that the reader gives. -/
def InPlace (bs : List Block) : Prop := bs.map (·.order) = (List.range bs.length).map orderAt

/-- What holds of every block read: no word is a brace, and its children are numbered. -/
structure WellRead (b : Block) : Prop where
  plain : ∀ key ∈ b.keys, key ≠ openBrace ∧ key ≠ closeBrace
  inPlace : InPlace b.children

theorem inPlace_append_singleton {bs : List Block} (h : InPlace bs) (keys : List String)
    (children : List Block) : InPlace (bs ++ [⟨keys, orderAt bs.length, children⟩]) := by
  unfold InPlace
  rw [List.map_append, h, List.length_append, List.length_singleton, List.range_succ,
    List.map_append]
  rfl

/-- The newest block of the level can still be given words or children. -/
def Unfinished (level : List Block) : Prop := ∃ b older, level = b :: older ∧ b.children = []

/-- The words before a level, one after the other with the braces that are open. -/
def openWords : List (List Block) → List String
  | [] => []
  | level :: outer => openWords outer ++ (wordsIn level.reverse ++ [openBrace])

theorem forall_blocksIn_iff {P : Block → Prop} {bs : List Block} :
    (∀ x ∈ blocksIn bs, P x) ↔ ∀ b ∈ bs, ∀ x ∈ blocksWithin b, P x := by
  rw [blocksIn_eq_flatMap]
  simp only [List.mem_flatMap]
  exact ⟨fun h b hb x hx => h x ⟨b, hb, hx⟩, fun h x ⟨b, hb, hx⟩ => h b hb x hx⟩

theorem forall_blocksIn_reverse {P : Block → Prop} {bs : List Block} :
    (∀ x ∈ blocksIn bs.reverse, P x) ↔ ∀ x ∈ blocksIn bs, P x := by
  rw [forall_blocksIn_iff, forall_blocksIn_iff]
  simp only [List.mem_reverse]

structure LevelWellRead (level : List Block) : Prop where
  inPlace : InPlace level.reverse
  below : ∀ b ∈ blocksIn level, WellRead b

/-- The newest block may be replaced by another that stands in its place. -/
theorem LevelWellRead.replace {b b' : Block} {older : List Block} (h : LevelWellRead (b :: older))
    (ho : b'.order = b.order) (hb : ∀ x ∈ blocksIn [b'], WellRead x) :
    LevelWellRead (b' :: older) := by
  refine ⟨?_, forall_blocksIn_cons.2 ⟨hb, (forall_blocksIn_cons.1 h.below).2⟩⟩
  have hp := h.inPlace
  unfold InPlace at hp ⊢
  rw [List.reverse_cons, List.map_append, List.length_append] at hp ⊢
  rw [List.map_singleton, ho]
  exact hp

namespace Draft

def words (d : Draft) : List String := openWords d.outer ++ wordsIn d.level.reverse

/-- Words and children go to a block that has no children yet. -/
structure Proper (d : Draft) : Prop where
  unfinished : d.fresh = false → Unfinished d.level
  opened : ∀ level ∈ d.outer, Unfinished level

/-- The level to which a word goes: the current one, or one with a new block. -/
def Begins (d : Draft) (level : List Block) : Prop :=
  level = d.level ∧ d.fresh = false ∨ level = ⟨[], orderAt d.level.length, []⟩ :: d.level

/-- The draft is made of the words `read`, with every finished block filled, unless braces with
nothing between them were read. -/
structure Follows (d : Draft) (read : List String) : Prop where
  proper : d.Proper
  sublist : d.words.Sublist read
  wellRead : ∀ level ∈ d.level :: d.outer, LevelWellRead level
  words : (read = d.words ∧ (∀ b ∈ blocksIn d.level, b.keys ≠ [] ∨ b.children ≠ []) ∧
      ∀ level ∈ d.outer, ∀ b ∈ blocksIn level.tail, b.keys ≠ [] ∨ b.children ≠ []) ∨
    charCount '\x7b' d.words < charCount '\x7b' read

theorem follows_start : start.Follows [] := by
  refine ⟨⟨nofun, nofun⟩, List.Sublist.refl [], ?_, Or.inl ⟨rfl, nofun, nofun⟩⟩
  intro level hl
  rw [List.mem_singleton.1 hl]
  exact ⟨rfl, nofun⟩

theorem read?_cases {d d' : Draft} {t : Token} (h : d.read? t = some d') :
    (t.text = closeBrace ∧ ∃ level outer, d.outer = level :: outer ∧
      d' = ⟨adopt d.level level, outer, true, some t.line⟩) ∨
    ∃ level, d.Begins level ∧
      (t.text = openBrace ∧ d' = ⟨[], level :: d.outer, true, some t.line⟩ ∨
        (t.text ≠ openBrace ∧ t.text ≠ closeBrace) ∧
          d' = ⟨addKey t.text level, d.outer, false, some (t.line + t.text.toList.count '\n')⟩) := by
  unfold read? at h
  split at h
  · rename_i hc
    cases ho : d.outer with
    | nil => rw [ho] at h; cases h
    | cons level outer =>
      rw [ho] at h
      exact Or.inl ⟨hc, level, outer, rfl, (Option.some.inj h).symm⟩
  · rename_i hc
    right
    dsimp only at h
    have hlevel : ∀ begins : Bool, begins = (d.fresh || d.line.any (· ≠ t.line)) →
        d.Begins (if begins = true then ⟨[], orderAt d.level.length, []⟩ :: d.level
          else d.level) := by
      intro begins hb
      cases begins with
      | true => exact Or.inr rfl
      | false => exact Or.inl ⟨rfl, (Bool.or_eq_false_iff.1 hb.symm).1⟩
    refine ⟨_, hlevel _ rfl, ?_⟩
    split at h
    · rename_i ho
      exact Or.inl ⟨ho, (Option.some.inj h).symm⟩
    · rename_i ho
      exact Or.inr ⟨⟨ho, hc⟩, (Option.some.inj h).symm⟩

theorem Proper.begins {d : Draft} (h : d.Proper) {level : List Block} (hl : d.Begins level) :
    Unfinished level := by
  rcases hl with ⟨rfl, hf⟩ | rfl
  · exact h.unfinished hf
  · exact ⟨_, _, rfl, rfl⟩

theorem Proper.read? {d d' : Draft} {t : Token} (h : d.Proper) (ht : d.read? t = some d') :
    d'.Proper := by
  rcases read?_cases ht with ⟨-, level, outer, ho, rfl⟩ | ⟨level, hl, ⟨-, rfl⟩ | ⟨-, rfl⟩⟩
  · have hopened := h.opened
    rw [ho] at hopened
    exact ⟨nofun, fun l hl => hopened l (List.mem_cons_of_mem _ hl)⟩
  · exact ⟨nofun, List.forall_mem_cons.2 ⟨h.begins hl, h.opened⟩⟩
  · obtain ⟨b, older, rfl, hc⟩ := h.begins hl
    exact ⟨fun _ => ⟨_, _, rfl, hc⟩, h.opened⟩

end Draft

theorem wordsIn_singleton (b : Block) : wordsIn [b] = wordsOf b := by
  rw [wordsIn, wordsIn, List.append_nil]

theorem wordsIn_reverse_cons (b : Block) (older : List Block) :
    wordsIn (b :: older).reverse = wordsIn older.reverse ++ wordsOf b := by
  rw [List.reverse_cons, wordsIn_append, wordsIn_singleton]

/-- A block that is begun adds nothing to what was read. -/
theorem Draft.Follows.begins {d : Draft} {read : List String} (h : d.Follows read)
    {level : List Block} (hl : d.Begins level) :
    LevelWellRead level ∧ wordsIn level.reverse = wordsIn d.level.reverse ∧
      ((∀ b ∈ blocksIn d.level, b.keys ≠ [] ∨ b.children ≠ []) →
        ∀ b ∈ blocksIn level.tail, b.keys ≠ [] ∨ b.children ≠ []) := by
  have hw := h.wellRead d.level List.mem_cons_self
  rcases hl with ⟨rfl, hf⟩ | rfl
  · obtain ⟨b, older, hb, -⟩ := h.proper.unfinished hf
    rw [hb] at hw ⊢
    exact ⟨hw, rfl, fun hall => (forall_blocksIn_cons.1 hall).2⟩
  · refine ⟨⟨?_, ?_⟩, ?_, fun hall => hall⟩
    · rw [List.reverse_cons, ← List.length_reverse]
      exact inPlace_append_singleton hw.inPlace [] []
    · rw [forall_blocksIn_cons, forall_blocksIn_singleton]
      exact ⟨⟨⟨nofun, rfl⟩, nofun⟩, hw.below⟩
    · rw [wordsIn_reverse_cons, wordsOf]
      simp

theorem Draft.Follows.open {d : Draft} {read : List String} (h : d.Follows read)
    {level : List Block} (hl : d.Begins level) {line : Option Nat}
    (hp : Draft.Proper ⟨[], level :: d.outer, true, line⟩) :
    Draft.Follows ⟨[], level :: d.outer, true, line⟩ (read ++ [openBrace]) := by
  obtain ⟨hw, hwords, hfill⟩ := h.begins hl
  have hd : Draft.words ⟨[], level :: d.outer, true, line⟩ = d.words ++ [openBrace] := by
    rw [Draft.words, openWords, hwords, Draft.words]
    simp [wordsIn]
  refine ⟨hp, by rw [hd]; exact h.sublist.append_right _, ?_, ?_⟩
  · exact List.forall_mem_cons.2 ⟨⟨rfl, nofun⟩, List.forall_mem_cons.2
      ⟨hw, fun l hl => h.wellRead l (List.mem_cons_of_mem _ hl)⟩⟩
  · rw [hd, charCount_append, charCount_append]
    rcases h.words with ⟨hread, hnew, hout⟩ | hlt
    · exact Or.inl ⟨by rw [hread], nofun, List.forall_mem_cons.2 ⟨hfill hnew, hout⟩⟩
    · exact Or.inr (Nat.add_lt_add_right hlt _)

theorem Draft.Follows.addKey {d : Draft} {read : List String} (h : d.Follows read)
    {level : List Block} (hl : d.Begins level) {key : String}
    (hk : key ≠ openBrace ∧ key ≠ closeBrace) {line : Option Nat}
    (hp : Draft.Proper ⟨Draft.addKey key level, d.outer, false, line⟩) :
    Draft.Follows ⟨Draft.addKey key level, d.outer, false, line⟩ (read ++ [key]) := by
  obtain ⟨b, older, rfl, hc⟩ := h.proper.begins hl
  obtain ⟨hw, hwords, hfill⟩ := h.begins hl
  obtain ⟨keys, order, children⟩ := b
  obtain rfl : children = [] := hc
  have hd : Draft.words ⟨Draft.addKey key (⟨keys, order, []⟩ :: older), d.outer, false, line⟩ =
      d.words ++ [key] := by
    unfold Draft.words
    rw [← hwords, Draft.addKey, wordsIn_reverse_cons,
      wordsIn_reverse_cons, Block.addKeys, wordsOf, wordsOf]
    simp
  refine ⟨hp, by rw [hd]; exact h.sublist.append_right _, ?_, ?_⟩
  · refine List.forall_mem_cons.2 ⟨hw.replace rfl ?_, fun l hl =>
      h.wellRead l (List.mem_cons_of_mem _ hl)⟩
    have hb := forall_blocksIn_singleton.1 (forall_blocksIn_cons.1 hw.below).1
    unfold Block.addKeys
    rw [forall_blocksIn_singleton]
    exact ⟨⟨List.forall_mem_append.2 ⟨hb.1.plain, List.forall_mem_singleton.2 hk⟩, rfl⟩,
      List.forall_mem_nil _⟩
  · rw [hd, charCount_append, charCount_append]
    rcases h.words with ⟨hread, hnew, hout⟩ | hlt
    · refine Or.inl ⟨by rw [hread], ?_, hout⟩
      rw [Draft.addKey, forall_blocksIn_cons, Block.addKeys, forall_blocksIn_singleton]
      exact ⟨⟨Or.inl (by simp), List.forall_mem_nil _⟩, hfill hnew⟩
    · exact Or.inr (Nat.add_lt_add_right hlt _)

theorem wordsOf_childless (keys : List String) (order : Int) : wordsOf ⟨keys, order, []⟩ = keys := by
  rw [wordsOf]
  simp

theorem Draft.words_opened (keys : List String) (order : Int) (inner older : List Block)
    (outer : List (List Block)) (fresh : Bool) (last : Option Nat) :
    Draft.words ⟨inner, (⟨keys, order, []⟩ :: older) :: outer, fresh, last⟩ =
      openWords outer ++ (wordsIn older.reverse ++ keys) ++ openBrace :: wordsIn inner.reverse := by
  unfold Draft.words
  rw [openWords, wordsIn_reverse_cons, wordsOf_childless]
  simp

theorem Draft.words_adopt {inner : List Block} (h : inner ≠ []) (keys : List String) (order : Int)
    (older : List Block) (outer : List (List Block)) (fresh : Bool) (last : Option Nat) :
    Draft.words ⟨adopt inner (⟨keys, order, []⟩ :: older), outer, fresh, last⟩ =
      openWords outer ++ (wordsIn older.reverse ++ keys) ++
        openBrace :: wordsIn inner.reverse ++ [closeBrace] := by
  unfold Draft.words
  rw [adopt, wordsIn_reverse_cons, wordsOf]
  simp [h]

theorem Draft.words_adopt_nil (keys : List String) (order : Int) (older : List Block)
    (outer : List (List Block)) (fresh : Bool) (last : Option Nat) :
    Draft.words ⟨adopt [] (⟨keys, order, []⟩ :: older), outer, fresh, last⟩ =
      openWords outer ++ (wordsIn older.reverse ++ keys) := by
  unfold Draft.words
  rw [adopt, List.reverse_nil, wordsIn_reverse_cons, wordsOf_childless]

theorem Draft.Follows.close {inner level : List Block} {outer : List (List Block)} {fresh : Bool}
    {last : Option Nat} {read : List String}
    (h : Draft.Follows ⟨inner, level :: outer, fresh, last⟩ read) {line : Option Nat}
    (hp : Draft.Proper ⟨adopt inner level, outer, true, line⟩) :
    Draft.Follows ⟨adopt inner level, outer, true, line⟩ (read ++ [closeBrace]) := by
  obtain ⟨b, older, rfl, hc⟩ := h.proper.opened level List.mem_cons_self
  obtain ⟨keys, order, children⟩ := b
  obtain rfl : children = [] := hc
  have hi := h.wellRead inner List.mem_cons_self
  have hw := h.wellRead _ (List.mem_cons_of_mem _ List.mem_cons_self)
  have hb := forall_blocksIn_singleton.1 (forall_blocksIn_cons.1 hw.below).1
  have hnumbered : ∀ l ∈ adopt inner (⟨keys, order, []⟩ :: older) :: outer, LevelWellRead l := by
    refine List.forall_mem_cons.2 ⟨hw.replace rfl ?_, fun l hl =>
      h.wellRead l (List.mem_cons_of_mem _ (List.mem_cons_of_mem _ hl))⟩
    rw [forall_blocksIn_singleton]
    exact ⟨⟨hb.1.plain, hi.inPlace⟩, forall_blocksIn_reverse.2 hi.below⟩
  by_cases hempty : inner = []
  · -- The braces around nothing are forgotten.
    subst hempty
    have hsub := h.sublist
    have hle := charCount_sublist '\x7b' hsub
    rw [words_opened] at hsub hle
    refine ⟨hp, ?_, hnumbered, Or.inr ?_⟩
    · rw [words_adopt_nil]
      exact ((List.sublist_append_left _ _).trans hsub).trans (List.sublist_append_left _ _)
    · have hone : openBrace.toList.count '\x7b' = 1 := by decide
      rw [charCount_append, charCount_cons] at hle
      rw [words_adopt_nil, charCount_append _ read]
      omega
  · have hafter := words_adopt hempty keys order older outer true line
    rw [← words_opened keys order inner older outer fresh last] at hafter
    refine ⟨hp, by rw [hafter]; exact h.sublist.append_right _, hnumbered, ?_⟩
    rw [hafter, charCount_append, charCount_append]
    rcases h.words with ⟨hread, hnew, hout⟩ | hlt
    · refine Or.inl ⟨by rw [hread], ?_, fun l hl => hout l (List.mem_cons_of_mem _ hl)⟩
      rw [adopt, forall_blocksIn_cons, forall_blocksIn_singleton]
      exact ⟨⟨Or.inr (by simpa using hempty), forall_blocksIn_reverse.2 hnew⟩,
        hout _ List.mem_cons_self⟩
    · exact Or.inr (Nat.add_lt_add_right hlt _)

/-- Reading a word keeps the draft in step with what was read. -/
theorem Draft.Follows.read? {d d' : Draft} {read : List String} (h : d.Follows read) {t : Token}
    (ht : d.read? t = some d') : d'.Follows (read ++ [t.text]) := by
  have hp := h.proper.read? ht
  obtain ⟨level, outer, fresh, last⟩ := d
  rcases read?_cases ht with ⟨hc, l, o, ho, rfl⟩ | ⟨l, hl, ⟨ho, rfl⟩ | ⟨hk, rfl⟩⟩
  · obtain rfl : outer = l :: o := ho
    rw [hc]
    exact h.close hp
  · rw [ho]
    exact h.open hl hp
  · exact h.addKey hl hk hp

namespace Draft

def run? (d : Draft) : List Token → Option Draft
  | [] => some d
  | t :: ts => (d.read? t).bind fun d => d.run? ts

/-- What every word preserves, a run preserves. -/
theorem run?_invariant {P : Draft → List String → Prop} {ts : List Token}
    (hstep : ∀ {d d' : Draft} {t : Token} {read : List String}, t ∈ ts → P d read →
      d.read? t = some d' → P d' (read ++ [t.text])) :
    ∀ {d d' : Draft} {read : List String}, P d read → d.run? ts = some d' →
      P d' (read ++ ts.map (·.text)) := by
  induction ts with
  | nil =>
    intro d d' read h hr
    obtain rfl : d = d' := Option.some.inj hr
    rwa [List.map_nil, List.append_nil]
  | cons t ts ih =>
    intro d d' read h hr
    obtain ⟨e, he, hr⟩ := Option.bind_eq_some_iff.1 hr
    have hrest := ih (fun ht => hstep (List.mem_cons_of_mem _ ht))
      (hstep List.mem_cons_self h he) hr
    rwa [List.append_assoc] at hrest

theorem run?_preserves {P : Draft → Prop} {ts : List Token}
    (hstep : ∀ {d d' : Draft} {t : Token}, t ∈ ts → P d → d.read? t = some d' → P d')
    {d d' : Draft} (h : P d) (hr : d.run? ts = some d') : P d' :=
  @run?_invariant (fun d _ => P d) ts (fun ht h hread => hstep ht h hread) d d' [] h hr

theorem Follows.run? {ts : List Token} {d d' : Draft} {read : List String} (h : d.Follows read)
    (hr : d.run? ts = some d') : d'.Follows (read ++ ts.map (·.text)) :=
  run?_invariant (fun _ h ht => h.read? ht) h hr

theorem readAll_append {ts : List Token} {d d' : Draft} (h : d.run? ts = some d')
    (more : List Token) : d.readAll (ts ++ more) = d'.readAll more := by
  induction ts generalizing d with
  | nil => rw [Option.some.inj h]; rfl
  | cons t ts ih =>
    obtain ⟨e, he, hr⟩ := Option.bind_eq_some_iff.1 h
    rw [List.cons_append, readAll, he]
    exact ih hr

theorem readAll_append_of_none {ts : List Token} {d : Draft} (h : d.run? ts = none)
    (more : List Token) : d.readAll (ts ++ more) = d.readAll ts := by
  induction ts generalizing d with
  | nil => cases h
  | cons t ts ih =>
    rw [run?] at h
    rw [List.cons_append, readAll, readAll]
    cases he : d.read? t with
    | none => rfl
    | some e =>
      rw [he] at h
      exact ih h

/-- Reading runs to the end or stops at a closing brace that is too many. -/
theorem readAll_run (ts : List Token) (d : Draft) : ∃ used d', used <+: ts ∧
    d.run? used = some d' ∧ (d.readAll ts).blocks = d'.blocks ∧
    ((d.readAll ts).fault = none → used = ts ∧ d'.outer = []) := by
  induction ts generalizing d with
  | nil =>
    refine ⟨[], d, List.prefix_refl [], rfl, ?_, fun h => ⟨rfl, ?_⟩⟩
    · rw [readAll]
      split <;> rfl
    · rw [readAll] at h
      split at h
      · rename_i ho
        simpa using ho
      · cases h
  | cons t ts ih =>
    cases he : d.read? t with
    | none =>
      refine ⟨[], d, List.nil_prefix, rfl, ?_, fun h => ?_⟩
      · rw [readAll, he]
      · rw [readAll, he] at h
        cases h
    | some e =>
      obtain ⟨used, d', hpre, hrun, hblocks, hfault⟩ := ih e
      refine ⟨t :: used, d', List.cons_prefix_cons.2 ⟨rfl, hpre⟩, ?_, ?_, fun h => ?_⟩
      · rw [run?, he]
        exact hrun
      · rw [readAll, he]
        exact hblocks
      · rw [readAll, he] at h
        obtain ⟨rfl, ho⟩ := hfault h
        exact ⟨rfl, ho⟩

/-- Closing what is open adds braces only. -/
theorem Follows.wordsIn_blocks {d : Draft} {read : List String} (h : d.Follows read) :
    (wordsIn d.blocks).Sublist (read ++ List.replicate d.outer.length closeBrace) := by
  obtain ⟨level, outer, fresh, last⟩ := d
  induction outer generalizing level fresh read with
  | nil =>
    rw [List.length_nil, List.replicate_zero, List.append_nil]
    exact h.sublist
  | cons next outer ih =>
    have hopened := h.proper.opened
    have hclosed := ih _ _ (h.close ⟨nofun, fun l hl => hopened l (List.mem_cons_of_mem _ hl)⟩)
    rwa [List.append_assoc] at hclosed

/-- The words of what is read were all read, up to the braces that close what was open. -/
theorem Follows.wordsIn_readAll {d : Draft} {read : List String} (h : d.Follows read)
    (ts : List Token) : ∃ n, (wordsIn (d.readAll ts).blocks).Sublist
      (read ++ ts.map (·.text) ++ List.replicate n closeBrace) := by
  obtain ⟨used, d', ⟨more, rfl⟩, hrun, hblocks, -⟩ := readAll_run ts d
  refine ⟨d'.outer.length, ?_⟩
  rw [hblocks]
  refine (h.run? hrun).wordsIn_blocks.trans (List.Sublist.append_right ?_ _)
  rw [List.map_append]
  exact (List.sublist_append_left _ _).append_left _

end Draft

theorem wellRead_of_parse {text : String} {bs : List Block} (h : parse text = ⟨bs, none⟩) :
    InPlace bs ∧ (∀ b ∈ blocksIn bs, WellRead b) ∧
      (((tokens text).map (·.text) = wordsIn bs ∧
          ∀ b ∈ blocksIn bs, b.keys ≠ [] ∨ b.children ≠ []) ∨
        charCount '\x7b' (wordsIn bs) < charCount '\x7b' ((tokens text).map (·.text))) := by
  obtain ⟨used, d, -, hrun, hblocks, hfault⟩ := Draft.readAll_run (tokens text) Draft.start
  unfold parse at h
  rw [h] at hblocks hfault
  obtain ⟨rfl, ho⟩ := hfault rfl
  have hf := Draft.follows_start.run? hrun
  obtain rfl : bs = d.level.reverse := by
    rw [show bs = d.blocks from hblocks, Draft.blocks, ho]
    rfl
  have hw := hf.wellRead d.level List.mem_cons_self
  have hwords := hf.words
  unfold Draft.words at hwords
  rw [ho, openWords, List.nil_append, List.nil_append] at hwords
  refine ⟨hw.inPlace, forall_blocksIn_reverse.2 hw.below, ?_⟩
  rcases hwords with ⟨hread, hnew, -⟩ | hlt
  · exact Or.inl ⟨hread, forall_blocksIn_reverse.2 hnew⟩
  · exact Or.inr hlt

end ProxyFleet.Caddyfile
