import Mathlib.Algebra.Group.Nat.Defs
import ProxyFleet.Caddyfile.Parser
import ProxyFleet.Proofs.Caddyfile.Tree
import ProxyFleet.Proofs.Caddyfile.Words
import ProxyFleet.Proofs.Text.Utf8

/-!
What is written is read back. A tree whose words are read as they are written comes back from its
text in the order in which it was written, with every block numbered among its siblings.
-/

namespace ProxyFleet.Caddyfile

/-- Every word of the block is read as it is written, none is a brace, and there is something to
write. -/
structure Sound (b : Block) : Prop where
  legible : ∀ key ∈ b.keys, Legible key
  plain : ∀ key ∈ b.keys, key ≠ openBrace ∧ key ≠ closeBrace
  filled : b.keys ≠ [] ∨ b.children ≠ []

theorem sound_iff (b : Block) : Sound b ↔ (∀ key ∈ b.keys, Legible key) ∧
    (∀ key ∈ b.keys, key ≠ openBrace ∧ key ≠ closeBrace) ∧ (b.keys ≠ [] ∨ b.children ≠ []) :=
  ⟨fun h => ⟨h.legible, h.plain, h.filled⟩, fun h => ⟨h.1, h.2.1, h.2.2⟩⟩

instance (b : Block) : Decidable (Sound b) := decidable_of_iff _ (sound_iff b).symm

theorem Sound.of_shape {a b : Block} (h : shape a = shape b) (ha : Sound a) : Sound b := by
  obtain ⟨hk, hc⟩ := Prod.mk.inj h
  refine ⟨hk ▸ ha.legible, hk ▸ ha.plain, ?_⟩
  rw [← hk, ← List.length_pos_iff (l := b.children), ← hc, List.length_pos_iff]
  exact ha.filled

/-- Every block is sound, and no list of siblings is longer than there are places for. -/
structure Faithful (tree : List Block) : Prop where
  sound : ∀ b ∈ blocksIn tree, Sound b
  few : tree.length < 2 ^ 31
  fewBelow : ∀ b ∈ blocksIn tree, b.children.length < 2 ^ 31

theorem faithful_iff (tree : List Block) : Faithful tree ↔ (∀ b ∈ blocksIn tree, Sound b) ∧
    tree.length < 2 ^ 31 ∧ ∀ b ∈ blocksIn tree, b.children.length < 2 ^ 31 :=
  ⟨fun h => ⟨h.sound, h.few, h.fewBelow⟩, fun h => ⟨h.1, h.2.1, h.2.2⟩⟩

instance (tree : List Block) : Decidable (Faithful tree) :=
  decidable_of_iff _ (faithful_iff tree).symm

theorem le_line_of_mem_tokensFrom {line : Nat} {cs : List Char} {t : Token}
    (h : t ∈ tokensFrom line cs) : line ≤ t.line := by
  fun_induction tokensFrom line cs with
  | case1 => cases h
  | case2 line rest ih => exact Nat.le_of_succ_le (ih h)
  | case3 line d rest _ _ ih => exact ih h
  | case4 line rest _ _ ih => exact ih h
  | case5 line d rest _ _ _ text ih =>
    rcases List.mem_cons.1 h with rfl | h
    · exact Nat.le_refl line
    · exact Nat.le_trans (Nat.le_add_right _ _) (ih h)

namespace Draft

variable {level : List Block} {outer : List (List Block)} {last : Option Nat} {line : Nat}

theorem readAll_first {key : String} (hk : key ≠ openBrace ∧ key ≠ closeBrace)
    (rest : List Token) :
    (⟨level, outer, true, last⟩ : Draft).readAll (⟨key, line⟩ :: rest) =
      (⟨⟨[key], orderAt level.length, []⟩ :: level, outer, false,
        some (line + key.toList.count '\n')⟩ : Draft).readAll rest := by
  rw [readAll, read?, if_neg hk.2]
  simp only [Bool.true_or, if_true, if_neg hk.1]
  rfl

theorem readAll_next {b : Block} {key : String} (hk : key ≠ openBrace ∧ key ≠ closeBrace)
    (rest : List Token) :
    (⟨b :: level, outer, false, some line⟩ : Draft).readAll (⟨key, line⟩ :: rest) =
      (⟨b.addKeys [key] :: level, outer, false, some (line + key.toList.count '\n')⟩ :
        Draft).readAll rest := by
  simp [readAll, read?, hk.1, hk.2, addKey]

theorem readAll_open_first (rest : List Token) :
    (⟨level, outer, true, last⟩ : Draft).readAll (⟨openBrace, line⟩ :: rest) =
      (⟨[], (⟨[], orderAt level.length, []⟩ :: level) :: outer, true, some line⟩ :
        Draft).readAll rest := by
  simp [readAll, read?, openBrace, closeBrace]

theorem readAll_open_next (rest : List Token) :
    (⟨level, outer, false, some line⟩ : Draft).readAll (⟨openBrace, line⟩ :: rest) =
      (⟨[], level :: outer, true, some line⟩ : Draft).readAll rest := by
  simp [readAll, read?, openBrace, closeBrace]

theorem readAll_close {inner : List Block} {fresh : Bool} (rest : List Token) :
    (⟨inner, level :: outer, fresh, last⟩ : Draft).readAll (⟨closeBrace, line⟩ :: rest) =
      (⟨adopt inner level, outer, true, some line⟩ : Draft).readAll rest := by
  simp [readAll, read?]

/-- On a later line, the next word starts a block. -/
theorem readAll_of_lt {ts : List Token} {n : Nat} (h : ∀ t ∈ ts, n < t.line) :
    (⟨level, outer, false, some n⟩ : Draft).readAll ts =
      (⟨level, outer, true, some n⟩ : Draft).readAll ts := by
  cases ts with
  | nil => rfl
  | cons t ts =>
    have hline : n ≠ t.line := Nat.ne_of_lt (h t List.mem_cons_self)
    simp [readAll, read?, hline, blocks]

theorem readAll_newline (rest : List Char) :
    (⟨level, outer, false, some line⟩ : Draft).readAll (tokensFrom line ('\n' :: rest)) =
      (⟨level, outer, true, some line⟩ : Draft).readAll (tokensFrom (line + 1) rest) := by
  rw [tokensFrom_newline]
  exact readAll_of_lt fun t ht => le_line_of_mem_tokensFrom ht

end Draft

theorem tokensFrom_tabs (level line : Nat) (rest : List Char) :
    tokensFrom line (List.replicate level '\t' ++ rest) = tokensFrom line rest := by
  induction level with
  | zero => rfl
  | succ level ih =>
    rw [List.replicate_succ, List.cons_append, tokensFrom_blank (by decide) (by decide), ih]

theorem tokensFrom_brace {c : Char} (h : c = '\x7b' ∨ c = '\x7d') (line : Nat) (rest : List Char) :
    tokensFrom line (c :: '\n' :: rest) = ⟨String.ofList [c], line⟩ :: tokensFrom (line + 1) rest := by
  have hword : word c ([] ++ '\n' :: rest) = ([c], '\n' :: rest) := by
    apply word_bare
    · rcases h with rfl | rfl <;> decide
    · rcases h with rfl | rfl <;> decide
    · nofun
    · exact endsWord_cons (by decide) rest
  rw [List.nil_append] at hword
  rw [tokensFrom_word (by rcases h with rfl | rfl <;> decide)
    (by rcases h with rfl | rfl <;> decide), hword, tokensFrom_newline]
  rcases h with rfl | rfl <;> rfl

theorem addKeys_nil (b : Block) : b.addKeys [] = b := by
  cases b
  unfold Block.addKeys
  rw [List.append_nil]

/-- The words behind the first one on a line go to the same block. -/
theorem readAll_writtenKeys_next {keys : List String} (hs : ∀ key ∈ keys, Legible key)
    (hp : ∀ key ∈ keys, key ≠ openBrace ∧ key ≠ closeBrace) {rest : List Char}
    (hr : EndsWord rest) (b : Block) (older : List Block) (outer : List (List Block)) (line : Nat) :
    ∃ line', (⟨b :: older, outer, false, some line⟩ : Draft).readAll
        (tokensFrom line ((keys.flatMap fun key => ' ' :: writtenKey key.toList) ++ rest)) =
      (⟨b.addKeys keys :: older, outer, false, some line'⟩ : Draft).readAll
        (tokensFrom line' rest) := by
  induction keys generalizing b line with
  | nil =>
    refine ⟨line, ?_⟩
    rw [List.flatMap_nil, List.nil_append, addKeys_nil]
  | cons key keys ih =>
    rw [List.forall_mem_cons] at hs hp
    have hrest : EndsWord ((keys.flatMap fun key => ' ' :: writtenKey key.toList) ++ rest) := by
      cases keys with
      | nil => exact hr
      | cons k ks => exact endsWord_cons Text.isBlank_space _
    obtain ⟨line', hl⟩ := ih hs.2 hp.2 (b.addKeys [key]) (line + key.toList.count '\n')
    refine ⟨line', ?_⟩
    rw [List.flatMap_cons, List.append_assoc, List.cons_append,
      tokensFrom_blank Text.isBlank_space (by decide),
      tokensFrom_writtenKey ((legible_iff key).1 hs.1) hrest, String.ofList_toList,
      Draft.readAll_next hp.1, hl]
    simp [Block.addKeys]

theorem writtenKeys_cons (key : String) (keys : List String) : writtenKeys (key :: keys) =
    writtenKey key.toList ++ keys.flatMap fun key => ' ' :: writtenKey key.toList := by
  induction keys generalizing key with
  | nil => simp [writtenKeys]
  | cons k keys ih => rw [writtenKeys, ih, List.flatMap_cons]; rfl; nofun

/-- The words of a line start a block and are its words. -/
theorem readAll_writtenKeys {key : String} {keys : List String}
    (hs : ∀ k ∈ key :: keys, Legible k)
    (hp : ∀ k ∈ key :: keys, k ≠ openBrace ∧ k ≠ closeBrace) {rest : List Char}
    (hr : EndsWord rest) (level : List Block) (outer : List (List Block)) (last : Option Nat)
    (line : Nat) :
    ∃ line', (⟨level, outer, true, last⟩ : Draft).readAll
        (tokensFrom line (writtenKeys (key :: keys) ++ rest)) =
      (⟨⟨key :: keys, orderAt level.length, []⟩ :: level, outer, false, some line'⟩ :
        Draft).readAll (tokensFrom line' rest) := by
  rw [List.forall_mem_cons] at hs hp
  have hrest : EndsWord ((keys.flatMap fun key => ' ' :: writtenKey key.toList) ++ rest) := by
    cases keys with
    | nil => exact hr
    | cons k ks => exact endsWord_cons Text.isBlank_space _
  obtain ⟨line', hl⟩ := readAll_writtenKeys_next hs.2 hp.2 hr ⟨[key], orderAt level.length, []⟩
    level outer (line + key.toList.count '\n')
  refine ⟨line', ?_⟩
  rw [writtenKeys_cons, List.append_assoc, tokensFrom_writtenKey ((legible_iff key).1 hs.1) hrest,
    String.ofList_toList, Draft.readAll_first hp.1, hl]
  rfl

/-- Both with and without words, the opening brace is read on the line of the block. -/
theorem readAll_opened {b : Block} (hb : Sound b) (level : List Block) (outer : List (List Block))
    (last : Option Nat) (line : Nat) (rest : List Char) :
    ∃ line', (⟨level, outer, true, last⟩ : Draft).readAll
        (tokensFrom line (writtenKeys b.keys ++
          ((if b.keys.isEmpty then [] else [' ']) ++ '\x7b' :: '\n' :: rest))) =
      (⟨[], (⟨b.keys, orderAt level.length, []⟩ :: level) :: outer, true, some line'⟩ :
        Draft).readAll (tokensFrom (line' + 1) rest) := by
  obtain ⟨keys, order, children⟩ := b
  cases keys with
  | nil =>
    refine ⟨line, ?_⟩
    simp only [writtenKeys, List.isEmpty_nil, if_true, List.nil_append]
    rw [tokensFrom_brace (Or.inl rfl)]
    exact Draft.readAll_open_first _
  | cons key keys =>
    obtain ⟨line', hl⟩ := readAll_writtenKeys hb.legible hb.plain
      (endsWord_cons Text.isBlank_space _) level outer last line
    refine ⟨line', ?_⟩
    simp only [List.isEmpty_cons, Bool.false_eq_true, if_false, List.singleton_append]
    rw [hl, tokensFrom_blank Text.isBlank_space (by decide), tokensFrom_brace (Or.inl rfl)]
    exact Draft.readAll_open_next _

mutual

/-- A block is read back as the next one of its level, and what follows starts another. -/
theorem readAll_written (depth : Nat) : ∀ b : Block, (∀ x ∈ blocksIn [b], Sound x) →
    ∀ (level : List Block) (outer : List (List Block)) (last : Option Nat) (line : Nat)
      (rest : List Char),
      ∃ last' line', (⟨level, outer, true, last⟩ : Draft).readAll
          (tokensFrom line (written depth b ++ rest)) =
        (⟨placed orderAt (orderAt level.length) b :: level, outer, true, last'⟩ : Draft).readAll
          (tokensFrom line' rest)
  | ⟨keys, order, children⟩, hs, level, outer, last, line, rest => by
    obtain ⟨hb, hc⟩ := forall_blocksIn_singleton.1 hs
    cases children with
    | nil =>
      -- Without children there is a first word, on a line of its own.
      cases keys with
      | nil => exact absurd hb.filled (by simp)
      | cons key keys =>
        obtain ⟨line', hl⟩ := readAll_writtenKeys hb.legible hb.plain
          (endsWord_cons Text.isBlank_newline rest) level outer last line
        refine ⟨some line', line' + 1, ?_⟩
        rw [written]
        simp only [List.isEmpty_nil, if_true, List.append_nil, List.append_assoc,
          List.singleton_append]
        rw [tokensFrom_tabs, hl, Draft.readAll_newline]
        rfl
    | cons child children =>
      obtain ⟨line', hl⟩ := readAll_opened hb level outer last line
        (writtenAll (depth + 1) (child :: children) ++ (List.replicate depth '\t' ++
          '\x7d' :: '\n' :: rest))
      obtain ⟨last', line'', hbody⟩ := readAll_writtenAll (depth + 1) (child :: children) hc []
        ((⟨keys, orderAt level.length, []⟩ :: level) :: outer) (some line') (line' + 1)
        (List.replicate depth '\t' ++ '\x7d' :: '\n' :: rest)
      refine ⟨some line'', line'' + 1, ?_⟩
      rw [written]
      simp only [List.isEmpty_cons, Bool.false_eq_true, if_false, List.append_assoc,
        List.cons_append, List.nil_append]
      rw [tokensFrom_tabs, hl, hbody, tokensFrom_tabs, tokensFrom_brace (Or.inr rfl),
        List.append_nil]
      refine (Draft.readAll_close _).trans ?_
      rw [Draft.adopt, List.reverse_reverse, placed]
      rfl

theorem readAll_writtenAll (depth : Nat) : ∀ bs : List Block, (∀ x ∈ blocksIn bs, Sound x) →
    ∀ (level : List Block) (outer : List (List Block)) (last : Option Nat) (line : Nat)
      (rest : List Char),
      ∃ last' line', (⟨level, outer, true, last⟩ : Draft).readAll
          (tokensFrom line (writtenAll depth bs ++ rest)) =
        (⟨(placedFrom orderAt level.length bs).reverse ++ level, outer, true, last'⟩ :
          Draft).readAll (tokensFrom line' rest)
  | [], _, level, outer, last, line, rest => ⟨last, line, rfl⟩
  | b :: bs, hs, level, outer, last, line, rest => by
    obtain ⟨hsb, hsbs⟩ := forall_blocksIn_cons.1 hs
    obtain ⟨last', line', hb⟩ := readAll_written depth b hsb level outer last line
      (writtenAll depth bs ++ rest)
    obtain ⟨last'', line'', hbs⟩ := readAll_writtenAll depth bs hsbs
      (placed orderAt (orderAt level.length) b :: level) outer last' line' rest
    refine ⟨last'', line'', ?_⟩
    rw [writtenAll, List.append_assoc, hb, hbs, placedFrom, List.reverse_cons, List.append_assoc,
      List.singleton_append]
    rfl

end

/-- The text of a sound tree is read as the tree in canonical order. -/
theorem parse_render {tree : List Block} (h : ∀ b ∈ blocksIn tree, Sound b) :
    parse (render tree) = ⟨numbered (sort tree), none⟩ := by
  have hs := (forall_blocksIn_sort (fun _ _ => Sound.of_shape) tree).2 h
  obtain ⟨last, line, hread⟩ := readAll_writtenAll 0 (sort tree) hs [] [] none 1 []
  rw [List.append_nil, tokensFrom_nil] at hread
  unfold parse tokens
  rw [toList_render, Draft.start, hread]
  simp [Draft.readAll, Draft.blocks, numbered]

mutual

theorem placed_eq (order : Int) : ∀ b : Block, (∀ x ∈ blocksIn [b], x.children.length < 2 ^ 31) →
    placed orderAt order b = placed (fun n => (n : Int)) order b
  | ⟨keys, _, children⟩, h => by
    obtain ⟨hb, hc⟩ := forall_blocksIn_singleton.1 h
    rw [placed, placed, placedFrom_eq 0 children (by simpa using hb) hc]

/-- The reader's order of a block is its index, as long as there are places. -/
theorem placedFrom_eq (n : Nat) : ∀ bs : List Block, n + bs.length < 2 ^ 31 →
    (∀ x ∈ blocksIn bs, x.children.length < 2 ^ 31) →
    placedFrom orderAt n bs = placedFrom (fun n => (n : Int)) n bs
  | [], _, _ => rfl
  | b :: rest, hn, h => by
    obtain ⟨hb, hrest⟩ := forall_blocksIn_cons.1 h
    rw [List.length_cons] at hn
    have hplace : orderAt n = (n : Int) := by
      unfold orderAt naturalOrder
      omega
    rw [placedFrom, placedFrom, hplace, placed_eq _ b hb, placedFrom_eq (n + 1) rest (by omega) hrest]

end

/-- The bytes of a faithful tree are read without a fault as the tree in canonical order, each block
numbered by its place among its siblings. -/
theorem parseBytes_render (tree : List Block) (h : Faithful tree) :
    parseBytes (Text.utf8 (render tree)) = ⟨indexed (sort tree), none⟩ := by
  have hfew : ∀ b ∈ blocksIn (sort tree), b.children.length < 2 ^ 31 := by
    refine (forall_blocksIn_sort (fun a b he ha => ?_) tree).2 h.fewBelow
    rw [← (Prod.mk.inj he).2]
    exact ha
  unfold parseBytes
  rw [Text.lossy_utf8, parse_render h.sound, numbered, indexed,
    placedFrom_eq 0 (sort tree) (by rw [Nat.zero_add, length_sort]; exact h.few) hfew]

def twoSites : List Block :=
  [⟨["a.example", "say \"hi\nthere\""], 7, [⟨["root", "*", "/srv"], 3, []⟩]⟩,
    ⟨[], 9, [⟨["email", "x@a.example"], 0, []⟩, ⟨[""], 0, [⟨["debug"], 0, []⟩]⟩]⟩]

theorem parseBytes_render_twoSites : Faithful twoSites ∧
    parseBytes (Text.utf8 (render twoSites)) = ⟨indexed (sort twoSites), none⟩ :=
  ⟨by decide, parseBytes_render twoSites (by decide)⟩

end ProxyFleet.Caddyfile
