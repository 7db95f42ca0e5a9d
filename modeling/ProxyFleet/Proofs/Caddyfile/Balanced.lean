import ProxyFleet.Proofs.Caddyfile.RoundTrip
import ProxyFleet.Proofs.Caddyfile.SelfContained

/-!
Every text is read as far as its braces allow. It is accepted if and only if they match, and what is
read has every word in the order of the text and at the depth of its place there, whether the
reading ends in a fault or not.
-/

namespace ProxyFleet.Caddyfile

/-- No closing brace stands before the opening brace that it closes. -/
def Opened (ws : List String) : Prop :=
  ∀ front, front <+: ws → front.count closeBrace ≤ front.count openBrace

structure Balanced (ws : List String) : Prop where
  opened : Opened ws
  closed : ws.count closeBrace = ws.count openBrace

/-- The words that are no braces, each with the number of braces that are open before it. -/
def nested : Nat → List String → List (String × Nat)
  | _, [] => []
  | depth, w :: ws =>
    if w = closeBrace then nested (depth - 1) ws
    else if w = openBrace then nested (depth + 1) ws
    else (w, depth) :: nested depth ws

mutual

def keysWithin (depth : Nat) : Block → List (String × Nat)
  | ⟨keys, _, children⟩ => keys.map (·, depth) ++ keysIn (depth + 1) children

def keysIn (depth : Nat) : List Block → List (String × Nat)
  | [] => []
  | b :: rest => keysWithin depth b ++ keysIn depth rest

end

mutual

def globalsFirstWithin : Block → Block
  | ⟨keys, order, children⟩ => ⟨keys, order, globalsFirst (globalsFirstEach children)⟩

def globalsFirstEach : List Block → List Block
  | [] => []
  | b :: rest => globalsFirstWithin b :: globalsFirstEach rest

end

/-! Depth and the number of braces. -/

theorem forall_prefix_cons {P : List String → Prop} {w : String} {ws : List String} :
    (∀ front, front <+: w :: ws → P front) ↔
      P [] ∧ ∀ front, front <+: ws → P (w :: front) := by
  constructor
  · intro h
    exact ⟨h [] List.nil_prefix, fun front hf => h _ (List.cons_prefix_cons.2 ⟨rfl, hf⟩)⟩
  · rintro ⟨hnil, hcons⟩ front hf
    cases front with
    | nil => exact hnil
    | cons v front =>
      obtain ⟨rfl, hrest⟩ := List.cons_prefix_cons.1 hf
      exact hcons front hrest

theorem depth?_eq_some_iff {n m : Nat} {ws : List String} :
    depth? n ws = some m ↔
      (∀ front, front <+: ws → front.count closeBrace ≤ n + front.count openBrace) ∧
        m + ws.count closeBrace = n + ws.count openBrace := by
  induction ws generalizing n with
  | nil => simp [depth?, eq_comm]
  | cons w ws ih =>
    have hne : openBrace ≠ closeBrace := by decide
    rw [depth?, braced?, forall_prefix_cons]
    by_cases hc : w = closeBrace
    · subst hc
      simp only [if_true, List.count_cons_self, List.count_cons_of_ne hne.symm, List.count_nil]
      cases n with
      | zero =>
        -- The closing brace alone is a front with too many.
        simp only [if_true, Option.bind_none, reduceCtorEq, false_iff]
        rintro ⟨⟨-, hfront⟩, -⟩
        have hnil := hfront [] List.nil_prefix
        simp at hnil
      | succ n =>
        have hle (a b : Nat) : a + 1 ≤ n + 1 + b ↔ a ≤ n + b := by omega
        have heq (a b : Nat) : m + (a + 1) = n + 1 + b ↔ m + a = n + b := by omega
        simp only [Nat.succ_ne_zero, if_false, Option.bind_some, Nat.add_sub_cancel, ih, hle, heq,
          Nat.zero_le, true_and]
    · by_cases ho : w = openBrace
      · subst ho
        have hadd (b : Nat) : n + 1 + b = n + (b + 1) := by omega
        simp only [hne, if_false, if_true, Option.bind_some, List.count_cons_self,
          List.count_cons_of_ne hne, List.count_nil, ih, hadd, Nat.zero_le, true_and]
      · simp only [hc, ho, if_false, Option.bind_some, ih, List.count_cons_of_ne hc,
          List.count_cons_of_ne ho, List.count_nil, Nat.zero_le, true_and]

theorem depth?_eq_zero_iff {ws : List String} : depth? 0 ws = some 0 ↔ Balanced ws := by
  simp only [depth?_eq_some_iff, Nat.zero_add]
  exact ⟨fun h => ⟨h.1, h.2⟩, fun h => ⟨h.opened, h.closed⟩⟩

theorem exists_depth?_iff {ws : List String} : (∃ m, depth? 0 ws = some m) ↔ Opened ws := by
  simp only [depth?_eq_some_iff, Nat.zero_add]
  constructor
  · rintro ⟨m, h, -⟩
    exact h
  · intro h
    have hall := h ws (List.prefix_refl ws)
    exact ⟨ws.count openBrace - ws.count closeBrace, h, by omega⟩

theorem nested_append {n m : Nat} {vs : List String} (h : depth? n vs = some m) (ws : List String) :
    nested n (vs ++ ws) = nested n vs ++ nested m ws := by
  induction vs generalizing n with
  | nil =>
    obtain rfl : n = m := Option.some.inj h
    rfl
  | cons v vs ih =>
    obtain ⟨k, hk, h⟩ := Option.bind_eq_some_iff.1 h
    rw [List.cons_append, nested, nested]
    unfold braced? at hk
    split at hk
    · next hc =>
      split at hk
      · cases hk
      · obtain rfl : n - 1 = k := Option.some.inj hk
        rw [if_pos hc, if_pos hc, ih h]
    · next hc =>
      rw [if_neg hc, if_neg hc]
      split at hk
      · next ho =>
        obtain rfl : n + 1 = k := Option.some.inj hk
        rw [if_pos ho, if_pos ho, ih h]
      · next ho =>
        obtain rfl : n = k := Option.some.inj hk
        rw [if_neg ho, if_neg ho, ih h, List.cons_append]

/-! The words of a draft. -/

theorem keysIn_append (depth : Nat) (as bs : List Block) :
    keysIn depth (as ++ bs) = keysIn depth as ++ keysIn depth bs := by
  induction as with
  | nil => rfl
  | cons a as ih => rw [List.cons_append, keysIn, keysIn, ih, List.append_assoc]

theorem keysIn_reverse_cons (depth : Nat) (b : Block) (older : List Block) :
    keysIn depth (b :: older).reverse = keysIn depth older.reverse ++ keysWithin depth b := by
  rw [List.reverse_cons, keysIn_append, keysIn, keysIn, List.append_nil]

namespace Draft

def keysOpen : List (List Block) → List (String × Nat)
  | [] => []
  | level :: outer => keysOpen outer ++ keysIn outer.length level.reverse

def keys (d : Draft) : List (String × Nat) := keysOpen (d.level :: d.outer)

/-- The draft holds the words read, each at its depth. -/
structure Nests (d : Draft) (read : List String) : Prop where
  proper : d.Proper
  depth : depth? 0 read = some d.outer.length
  keys : d.keys = nested 0 read

theorem nests_start : start.Nests [] :=
  ⟨follows_start.proper, rfl, rfl⟩

theorem Begins.keysIn {d : Draft} {level : List Block} (h : d.Begins level) (depth : Nat) :
    keysIn depth level.reverse = keysIn depth d.level.reverse := by
  rcases h with ⟨rfl, -⟩ | rfl
  · rfl
  · rw [keysIn_reverse_cons, keysWithin]
    simp [Caddyfile.keysIn]

/-- The finished level is the children of the block that was open. -/
theorem keysIn_adopt {level : List Block} (h : Unfinished level) (inner : List Block)
    (depth : Nat) : Caddyfile.keysIn depth (adopt inner level).reverse =
      Caddyfile.keysIn depth level.reverse ++ Caddyfile.keysIn (depth + 1) inner.reverse := by
  obtain ⟨⟨keys, order, children⟩, older, rfl, hc⟩ := h
  obtain rfl : children = [] := hc
  rw [adopt, keysIn_reverse_cons, keysIn_reverse_cons, keysWithin, keysWithin]
  simp [Caddyfile.keysIn]

theorem keysIn_addKey {level : List Block} (h : Unfinished level) (key : String)
    (depth : Nat) : Caddyfile.keysIn depth (addKey key level).reverse =
      Caddyfile.keysIn depth level.reverse ++ [(key, depth)] := by
  obtain ⟨⟨keys, order, children⟩, older, rfl, hc⟩ := h
  obtain rfl : children = [] := hc
  rw [addKey, keysIn_reverse_cons, keysIn_reverse_cons, Block.addKeys, keysWithin, keysWithin]
  simp [Caddyfile.keysIn]

theorem Nests.read? {d d' : Draft} {read : List String} (h : d.Nests read) {t : Token}
    (ht : d.read? t = some d') : d'.Nests (read ++ [t.text]) := by
  have hdepth : depth? 0 (read ++ [t.text]) = some d'.outer.length := by
    have hstep := length_outer_read? d t
    rw [ht] at hstep
    rw [depth?_append, h.depth, Option.bind_some, depth?, ← hstep]
    rfl
  refine ⟨h.proper.read? ht, hdepth, ?_⟩
  rw [nested_append h.depth, ← h.keys]
  have hne : openBrace ≠ closeBrace := by decide
  rcases read?_cases ht with ⟨hc, level, outer, ho, rfl⟩ | ⟨level, hl, ⟨ho, rfl⟩ | ⟨⟨ho, hc⟩, rfl⟩⟩
  · have hopened := h.proper.opened level (by simp [ho])
    simp [Draft.keys, keysOpen, ho, keysIn_adopt hopened, nested, hc]
  · simp [Draft.keys, keysOpen, hl.keysIn, nested, ho, hne, Caddyfile.keysIn]
  · simp [Draft.keys, keysOpen, keysIn_addKey (h.proper.begins hl), hl.keysIn, nested, ho, hc]

theorem Nests.run? {ts : List Token} {d d' : Draft} {read : List String} (h : d.Nests read)
    (hr : d.run? ts = some d') : d'.Nests (read ++ ts.map (·.text)) :=
  run?_invariant (fun _ h ht => h.read? ht) h hr

theorem Proper.adopt {level next : List Block} {outer : List (List Block)} {fresh : Bool}
    {line line' : Option Nat} (h : Proper ⟨level, next :: outer, fresh, line⟩) :
    Proper ⟨Draft.adopt level next, outer, true, line'⟩ :=
  ⟨nofun, fun l hl => h.opened l (List.mem_cons_of_mem _ hl)⟩

theorem Proper.keysIn_blocks {d : Draft} (h : d.Proper) : Caddyfile.keysIn 0 d.blocks = d.keys := by
  obtain ⟨level, outer, fresh, line⟩ := d
  -- Closing the innermost level gives the same tree and leaves one level less open.
  induction outer generalizing level fresh with
  | nil => rfl
  | cons next outer ih =>
    have hclosed := ih _ _ h.adopt
    have hopened := h.opened next List.mem_cons_self
    refine Eq.trans hclosed ?_
    simp [Draft.keys, keysOpen, keysIn_adopt hopened]

theorem Follows.wellRead_blocks {d : Draft} {read : List String} (h : d.Follows read) :
    InPlace d.blocks ∧ ∀ b ∈ blocksIn d.blocks, WellRead b := by
  obtain ⟨level, outer, fresh, line⟩ := d
  induction outer generalizing level fresh read with
  | nil =>
    have hlevel := h.wellRead level List.mem_cons_self
    exact ⟨hlevel.inPlace, forall_blocksIn_reverse.2 hlevel.below⟩
  | cons next outer ih => exact ih _ _ (h.close h.proper.adopt)

/-! How a reading ends. -/

theorem run?_concat {ts : List Token} {t : Token} {d d' : Draft} (h : d.run? (ts ++ [t]) = some d') :
    ∃ e, d.run? ts = some e ∧ e.read? t = some d' := by
  induction ts generalizing d with
  | nil =>
    obtain ⟨e, he, hr⟩ := Option.bind_eq_some_iff.1 h
    obtain rfl : e = d' := Option.some.inj hr
    exact ⟨d, rfl, he⟩
  | cons s ts ih =>
    obtain ⟨e, he, hr⟩ := Option.bind_eq_some_iff.1 h
    obtain ⟨f, hf, ht⟩ := ih hr
    exact ⟨f, by rw [run?, he]; exact hf, ht⟩

/-- The draft knows the line on which the last word ended. -/
theorem line_of_read? {d d' : Draft} {t : Token} (h : d.read? t = some d') :
    d'.line = some (t.line + t.text.toList.count '\n') := by
  have hclose : closeBrace.toList.count '\n' = 0 := by decide
  have hopen : openBrace.toList.count '\n' = 0 := by decide
  rcases read?_cases h with ⟨hc, level, outer, -, rfl⟩ | ⟨level, -, ⟨ho, rfl⟩ | ⟨-, rfl⟩⟩
  · rw [hc, hclose, Nat.add_zero]
  · rw [ho, hopen, Nat.add_zero]
  · rfl

theorem exists_of_run?_eq_none {ts : List Token} {d : Draft} (h : d.run? ts = none) :
    ∃ front t rest d', ts = front ++ t :: rest ∧ d.run? front = some d' ∧ d'.read? t = none := by
  induction ts generalizing d with
  | nil => cases h
  | cons t ts ih =>
    cases he : d.read? t with
    | none => exact ⟨[], t, ts, d, rfl, rfl, he⟩
    | some e =>
      rw [run?, he] at h
      obtain ⟨front, s, rest, d', rfl, hrun, hread⟩ := ih h
      exact ⟨t :: front, s, rest, d', rfl, by rw [run?, he]; exact hrun, hread⟩

theorem text_of_read?_eq_none {d : Draft} {t : Token} (h : d.read? t = none) :
    t.text = closeBrace := by
  unfold read? at h
  split at h
  · next hc => exact hc
  · dsimp only at h
    split at h <;> cases h

end Draft

/-! The places of what is read. -/

theorem orders_eq_of_inPlace {bs : List Block} (h : InPlace bs) (hn : bs.length < 2 ^ 31) :
    bs.map (·.order) = (List.range' 0 bs.length).map fun n : Nat => (n : Int) := by
  rw [h, ← List.range_eq_range']
  refine List.map_congr_left fun n hmem => orderAt_of_lt ?_
  exact Nat.lt_trans (List.mem_range.1 hmem) hn

mutual

theorem placed_self : ∀ b : Block, (∀ x ∈ blocksIn [b], WellRead x) →
    (∀ x ∈ blocksIn [b], x.children.length < 2 ^ 31) →
    placed (fun n => (n : Int)) b.order b = b
  | ⟨keys, order, children⟩, hw, hfew => by
    obtain ⟨hb, hbelow⟩ := forall_blocksIn_singleton.1 hw
    obtain ⟨hlen, hlens⟩ := forall_blocksIn_singleton.1 hfew
    rw [placed, placedFrom_self 0 children (orders_eq_of_inPlace hb.inPlace hlen) hbelow hlens]

theorem placedFrom_self (n : Nat) : ∀ bs : List Block,
    bs.map (·.order) = ((List.range' n bs.length).map fun n : Nat => (n : Int)) →
    (∀ x ∈ blocksIn bs, WellRead x) → (∀ x ∈ blocksIn bs, x.children.length < 2 ^ 31) →
    placedFrom (fun n => (n : Int)) n bs = bs
  | [], _, _, _ => rfl
  | b :: rest, hn, hw, hfew => by
    obtain ⟨hb, hrest⟩ := forall_blocksIn_cons.1 hw
    obtain ⟨hlen, hlens⟩ := forall_blocksIn_cons.1 hfew
    rw [List.map_cons, List.length_cons, List.range'_succ, List.map_cons, List.cons.injEq] at hn
    rw [placedFrom, ← hn.1, placed_self b hb hlen, placedFrom_self (n + 1) rest hn.2 hrest hlens]

end

mutual

theorem sortWithin_eq : ∀ b : Block, (∀ x ∈ blocksIn [b], WellRead x) →
    (∀ x ∈ blocksIn [b], x.children.length < 2 ^ 31) → sortWithin b = globalsFirstWithin b
  | ⟨keys, order, children⟩, hw, hfew => by
    obtain ⟨hb, hbelow⟩ := forall_blocksIn_singleton.1 hw
    obtain ⟨hlen, hlens⟩ := forall_blocksIn_singleton.1 hfew
    rw [sortWithin, globalsFirstWithin, ← sort, sort_eq_globalsFirst hb.inPlace hlen,
      sortEach_eq children hbelow hlens]

theorem sortEach_eq : ∀ bs : List Block, (∀ x ∈ blocksIn bs, WellRead x) →
    (∀ x ∈ blocksIn bs, x.children.length < 2 ^ 31) → sortEach bs = globalsFirstEach bs
  | [], _, _ => rfl
  | b :: rest, hw, hfew => by
    obtain ⟨hb, hrest⟩ := forall_blocksIn_cons.1 hw
    obtain ⟨hlen, hlens⟩ := forall_blocksIn_cons.1 hfew
    rw [sortEach, globalsFirstEach, sortWithin_eq b hb hlen, sortEach_eq rest hrest hlens]

end

/-- What a reading makes of the words: it is accepted if and only if their braces match; else it ends
with the first brace that closes nothing, or knows where the text ended. The words that were read up
to there are all in the tree, in their order and at their depth. Each block has its index for its
order, and sorting only moves global options. -/
structure Accounts (ts : List Token) (r : Reading) : Prop where
  accepted : r.fault = none ↔ Balanced (ts.map (·.text))
  kept : Opened (ts.map (·.text)) → keysIn 0 r.blocks = nested 0 (ts.map (·.text))
  unclosed : Opened (ts.map (·.text)) → ¬ Balanced (ts.map (·.text)) →
    ∃ front t, ts = front ++ [t] ∧
      r.fault = some ⟨.unclosedOpen, t.line + t.text.toList.count '\n'⟩
  unexpected : ¬ Opened (ts.map (·.text)) → ∃ front t rest, ts = front ++ t :: rest ∧
    t.text = closeBrace ∧ Opened (front.map (·.text)) ∧ ¬ Opened ((front ++ [t]).map (·.text)) ∧
      r.fault = some ⟨.unexpectedClose, t.line⟩ ∧
        keysIn 0 r.blocks = nested 0 (front.map (·.text))
  placed : r.blocks.length < 2 ^ 31 → (∀ b ∈ blocksIn r.blocks, b.children.length < 2 ^ 31) →
    indexed r.blocks = r.blocks ∧ sort r.blocks = globalsFirst (globalsFirstEach r.blocks)

namespace Draft

theorem opened_iff {ts : List Token} : Opened (ts.map (·.text)) ↔ ∃ d, start.run? ts = some d := by
  have hdepth := length_outer_run? ts start
  rw [← exists_depth?_iff]
  change _ = depth? 0 _ at hdepth
  rw [← hdepth]
  simp

theorem not_opened_of_read? {front : List Token} {t : Token} {d : Draft}
    (h : start.run? front = some d) (ht : d.read? t = none) :
    ¬ Opened ((front ++ [t]).map (·.text)) := by
  rw [opened_iff]
  rintro ⟨d', hd'⟩
  obtain ⟨e, he, hread⟩ := run?_concat hd'
  obtain rfl : d = e := Option.some.inj (h.symm.trans he)
  rw [ht] at hread
  cases hread

theorem readAll_of_run? {ts : List Token} {d d' : Draft} (h : d.run? ts = some d') :
    d.readAll ts = d'.readAll [] := by
  rw [← readAll_append h [], List.append_nil]

theorem blocks_readAll_nil (d : Draft) : (d.readAll []).blocks = d.blocks := by
  rw [readAll]
  split <;> rfl

theorem placed_blocks {ts : List Token} {d : Draft} (h : start.run? ts = some d)
    (hn : d.blocks.length < 2 ^ 31) (hfew : ∀ b ∈ blocksIn d.blocks, b.children.length < 2 ^ 31) :
    indexed d.blocks = d.blocks ∧ sort d.blocks = globalsFirst (globalsFirstEach d.blocks) := by
  obtain ⟨hplace, hw⟩ := (follows_start.run? h).wellRead_blocks
  refine ⟨placedFrom_self 0 _ (orders_eq_of_inPlace hplace hn) hw hfew, ?_⟩
  rw [sort_eq_globalsFirst hplace hn, sortEach_eq _ hw hfew]

theorem keysIn_blocks {ts : List Token} {d : Draft} (h : start.run? ts = some d) :
    Caddyfile.keysIn 0 d.blocks = nested 0 (ts.map (·.text)) := by
  have hnests := nests_start.run? h
  rw [hnests.proper.keysIn_blocks, hnests.keys, List.nil_append]

/-- Braces that are left open are noticed at the end of the last word. -/
theorem fault_of_open {ts : List Token} {d : Draft} (h : start.run? ts = some d)
    (ho : d.outer ≠ []) : ∃ front t, ts = front ++ [t] ∧
      (d.readAll []).fault = some ⟨.unclosedOpen, t.line + t.text.toList.count '\n'⟩ := by
  rcases List.eq_nil_or_concat ts with rfl | ⟨front, t, rfl⟩
  · obtain rfl : start = d := Option.some.inj h
    exact absurd rfl ho
  · rw [List.concat_eq_append] at h ⊢
    obtain ⟨e, -, hread⟩ := run?_concat h
    refine ⟨front, t, rfl, ?_⟩
    rw [readAll, if_neg (by simpa using ho), line_of_read? hread]
    rfl

theorem fault_eq_none_iff (ts : List Token) :
    (start.readAll ts).fault = none ↔ Balanced (ts.map (·.text)) :=
  (fault_readAll_iff ts start).trans depth?_eq_zero_iff

theorem accounts_of_run? {ts : List Token} {d : Draft} (h : start.run? ts = some d) :
    Accounts ts (start.readAll ts) := by
  have hall := readAll_of_run? h
  have hblocks : (start.readAll ts).blocks = d.blocks := by rw [hall, blocks_readAll_nil]
  refine ⟨fault_eq_none_iff ts, fun _ => ?_, fun _ hb => ?_, fun hc => ?_, ?_⟩
  · rw [hblocks, keysIn_blocks h]
  · have ho : d.outer ≠ [] := by
      intro ho
      rw [← fault_eq_none_iff, hall, readAll, if_pos (by simp [ho])] at hb
      exact hb rfl
    rw [hall]
    exact fault_of_open h ho
  · exact absurd (opened_iff.2 ⟨d, h⟩) hc
  · rw [hblocks]
    exact placed_blocks h

theorem accounts_of_run?_eq_none {ts : List Token} (h : start.run? ts = none) :
    Accounts ts (start.readAll ts) := by
  have hnot : ¬ Opened (ts.map (·.text)) := by
    rw [opened_iff, h]
    rintro ⟨d, hd⟩
    cases hd
  obtain ⟨front, t, rest, d, rfl, hfront, ht⟩ := exists_of_run?_eq_none h
  have hall : start.readAll (front ++ t :: rest) = ⟨d.blocks, some ⟨.unexpectedClose, t.line⟩⟩ := by
    rw [readAll_append hfront, readAll, ht]
  refine ⟨fault_eq_none_iff _, fun hc => absurd hc hnot, fun hc => absurd hc hnot, fun _ => ?_, ?_⟩
  · rw [hall]
    exact ⟨front, t, rest, rfl, text_of_read?_eq_none ht, opened_iff.2 ⟨d, hfront⟩,
      not_opened_of_read? hfront ht, rfl, keysIn_blocks hfront⟩
  · rw [hall]
    exact placed_blocks hfront

end Draft

theorem parseBytes_accounts (data : Text.Bytes) :
    Accounts (tokens (Text.lossy data)) (parseBytes data) := by
  unfold parseBytes parse
  cases h : Draft.start.run? (tokens (Text.lossy data)) with
  | some d => exact Draft.accounts_of_run? h
  | none => exact Draft.accounts_of_run?_eq_none h

end ProxyFleet.Caddyfile
