import ProxyFleet.Proofs.Caddyfile.Closed
import ProxyFleet.Proofs.Caddyfile.Held

/-!
Texts that leave nothing open, neither a word nor a brace. They can be put together and taken apart,
and a sound block behind them is read as a block of the top level and stays one.
-/

namespace ProxyFleet.Caddyfile

/-- How many braces are open after one word if `n` were before, unless too many are closed. -/
def braced? (n : Nat) (w : String) : Option Nat :=
  if w = closeBrace then if n = 0 then none else some (n - 1)
  else if w = openBrace then some (n + 1)
  else some n

def depth? : Nat → List String → Option Nat
  | n, [] => some n
  | n, w :: ws => (braced? n w).bind fun m => depth? m ws

theorem depth?_append (n : Nat) (vs ws : List String) :
    depth? n (vs ++ ws) = (depth? n vs).bind fun m => depth? m ws := by
  induction vs generalizing n with
  | nil => rfl
  | cons v vs ih =>
    rw [List.cons_append, depth?, depth?, Option.bind_assoc]
    exact Option.bind_congr fun m _ => ih m

theorem Draft.length_outer_read? (d : Draft) (t : Token) :
    (d.read? t).map (·.outer.length) = braced? d.outer.length t.text := by
  obtain ⟨level, outer, fresh, last⟩ := d
  rw [Draft.read?, braced?]
  by_cases hc : t.text = closeBrace
  · rw [if_pos hc, if_pos hc]
    cases outer with
    | nil => rfl
    | cons next outer => rfl
  · rw [if_neg hc, if_neg hc]
    by_cases ho : t.text = openBrace
    · simp only [if_pos ho]
      rfl
    · simp only [if_neg ho]
      rfl

theorem Draft.length_outer_run? (ts : List Token) (d : Draft) :
    (d.run? ts).map (·.outer.length) = depth? d.outer.length (ts.map (·.text)) := by
  induction ts generalizing d with
  | nil => rfl
  | cons t ts ih =>
    rw [List.map_cons, depth?, run?, ← length_outer_read?, Option.map_bind]
    cases d.read? t with
    | none => rfl
    | some e => exact ih e

theorem Draft.fault_readAll_iff (ts : List Token) (d : Draft) :
    (d.readAll ts).fault = none ↔ depth? d.outer.length (ts.map (·.text)) = some 0 := by
  rw [← length_outer_run?]
  constructor
  · intro h
    obtain ⟨used, d', -, hrun, -, hfault⟩ := readAll_run ts d
    obtain ⟨rfl, ho⟩ := hfault h
    rw [hrun, Option.map_some, ho]
    rfl
  · intro h
    obtain ⟨d', hrun, ho⟩ := Option.map_eq_some_iff.1 h
    have hall := readAll_append hrun []
    rw [List.append_nil] at hall
    rw [hall, readAll, if_pos (by simpa using ho)]

/-- What follows the text is read as if it stood alone, and the text itself is read without a
fault. -/
structure SelfContained (cs : List Char) : Prop where
  closed : Closed cs
  balanced : (parse (String.ofList cs)).fault = none

theorem fault_parse_iff (cs : List Char) :
    (parse (String.ofList cs)).fault = none ↔ depth? 0 (texts cs) = some 0 := by
  unfold parse tokens
  rw [String.toList_ofList]
  exact Draft.fault_readAll_iff _ Draft.start

theorem SelfContained.append {cs ds : List Char} (hc : SelfContained cs) (hd : SelfContained ds) :
    SelfContained (cs ++ ds) := by
  refine ⟨hc.closed.append hd.closed, ?_⟩
  rw [fault_parse_iff, hc.closed, depth?_append, (fault_parse_iff cs).1 hc.balanced]
  exact (fault_parse_iff ds).1 hd.balanced

theorem SelfContained.of_append {cs ds : List Char} (hc : SelfContained cs)
    (h : SelfContained (cs ++ ds)) : SelfContained ds := by
  refine ⟨hc.closed.of_append h.closed, ?_⟩
  have hall := (fault_parse_iff _).1 h.balanced
  rw [hc.closed, depth?_append, (fault_parse_iff cs).1 hc.balanced] at hall
  exact (fault_parse_iff ds).2 hall

theorem texts_nil : texts [] = [] := by
  unfold texts
  rw [tokensFrom_nil, List.map_nil]

theorem selfContained_nil : SelfContained [] := by
  refine ⟨fun rest => ?_, (fault_parse_iff []).2 ?_⟩
  · rw [texts_nil]
    rfl
  · rw [texts_nil]
    rfl

/-- In closed lines, no word goes on behind them. -/
theorem Closed.tokensFrom {cs : List Char} (h : Closed cs) (hw : WholeLines cs) :
    (∀ rest, tokensFrom 1 (cs ++ rest) =
      tokensFrom 1 cs ++ tokensFrom (1 + cs.count '\n') rest) ∧
      ∀ t ∈ tokensFrom 1 cs, t.line + t.text.toList.count '\n' < 1 + cs.count '\n' := by
  rcases tokensFrom_append hw 1 with ⟨ts, hts, hend⟩ | ⟨ts, l, first, scan, hscan, hts⟩
  · have hcs := hts []
    rw [List.append_nil, tokensFrom_nil, List.append_nil] at hcs
    rw [hcs]
    exact ⟨hts, hend⟩
  · have hnil : scan [] = ([], []) := by rcases hscan with rfl | rfl <;> rfl
    have ha : scan ['a'] = (['a'], []) := by rcases hscan with rfl | rfl <;> decide
    -- A letter behind the text would make the last word longer, not be a word by itself.
    have hletter := h ['a']
    obtain ⟨l', hl⟩ := hts []
    obtain ⟨l'', hl'⟩ := hts ['a']
    rw [List.append_nil, hnil] at hl
    rw [ha] at hl'
    have hone : texts ['a'] = ["a"] := by decide +kernel
    rw [texts, hl', texts, hl, hone] at hletter
    have hlen := congrArg List.length hletter
    simp [tokensFrom_nil] at hlen

theorem closed_of_tokensFrom {cs : List Char} {ts : List Token} {line : Nat}
    (h : ∀ rest, Caddyfile.tokensFrom 1 (cs ++ rest) = ts ++ Caddyfile.tokensFrom line rest) :
    Closed cs := by
  have hread : ∀ rest, texts (cs ++ rest) = ts.map (·.text) ++ texts rest := by
    intro rest
    rw [texts, h, List.map_append, map_text_tokensFrom]
  intro rest
  have hnil := hread []
  rw [List.append_nil, texts_nil, List.append_nil] at hnil
  rw [hread, hnil]

/-- Behind lines that close too many braces nothing is read. -/
theorem Closed.parse_append {cs : List Char} (h : Closed cs) (hw : WholeLines cs)
    (hn : depth? 0 (texts cs) = none) (rest : List Char) :
    parse (String.ofList (cs ++ rest)) = parse (String.ofList cs) := by
  have hrun : Draft.start.run? (Caddyfile.tokensFrom 1 cs) = none :=
    Option.map_eq_none_iff.1 ((Draft.length_outer_run? _ Draft.start).trans hn)
  unfold parse tokens
  rw [String.toList_ofList, String.toList_ofList,
    (h.tokensFrom hw).1, Draft.readAll_append_of_none hrun]

namespace Draft

/-- The next word from `line` on starts a block. -/
def Before (d : Draft) (line : Nat) : Prop := d.fresh = true ∨ ∃ n, d.line = some n ∧ n < line

theorem before_of_read? {d d' : Draft} {t : Token} {line : Nat}
    (h : t.line + t.text.toList.count '\n' < line) (ht : d.read? t = some d') : d'.Before line := by
  rcases read?_cases ht with ⟨-, level, outer, -, rfl⟩ | ⟨level, -, ⟨-, rfl⟩ | ⟨-, rfl⟩⟩
  · exact Or.inl rfl
  · exact Or.inl rfl
  · exact Or.inr ⟨_, rfl, h⟩

theorem Before.readAll {d : Draft} {line : Nat} (h : d.Before line) (rest : List Char) :
    d.readAll (tokensFrom line rest) =
      (⟨d.level, d.outer, true, d.line⟩ : Draft).readAll (tokensFrom line rest) := by
  obtain ⟨level, outer, fresh, last⟩ := d
  cases fresh with
  | true => rfl
  | false =>
    obtain ⟨n, rfl, hn⟩ : ∃ n, last = some n ∧ n < line := h.resolve_left nofun
    exact readAll_of_lt fun t ht => Nat.lt_of_lt_of_le hn (le_line_of_mem_tokensFrom ht)

end Draft

/-- Closed lines are read on their own, and what follows them starts a block. -/
theorem Closed.run {cs : List Char} (h : Closed cs) (hw : WholeLines cs) {n : Nat}
    (hn : depth? 0 (texts cs) = some n) :
    ∃ level outer last line, outer.length = n ∧ (∀ l ∈ outer, Unfinished l) ∧
      ∀ rest, Draft.start.readAll (Caddyfile.tokensFrom 1 (cs ++ rest)) =
        (⟨level, outer, true, last⟩ : Draft).readAll (Caddyfile.tokensFrom line rest) := by
  obtain ⟨htokens, hend⟩ := h.tokensFrom hw
  have hlen := Draft.length_outer_run? (Caddyfile.tokensFrom 1 cs) Draft.start
  rw [← texts, show Draft.start.outer.length = 0 from rfl, hn] at hlen
  obtain ⟨d, hrun, ho⟩ := Option.map_eq_some_iff.1 hlen
  obtain ⟨hproper, hbefore⟩ := Draft.run?_preserves
    (P := fun d => d.Proper ∧ d.Before (1 + cs.count '\n'))
    (fun ht hd hread => ⟨hd.1.read? hread, Draft.before_of_read? (hend _ ht) hread⟩)
    ⟨Draft.follows_start.proper, Or.inl rfl⟩ hrun
  refine ⟨d.level, d.outer, d.line, 1 + cs.count '\n', ho, hproper.opened, fun rest => ?_⟩
  rw [htokens, Draft.readAll_append hrun, hbefore.readAll]

/-- A sound block behind closed lines is read at the depth that these leave open. -/
theorem Closed.below_parse {cs : List Char} (h : Closed cs) (hw : WholeLines cs) {n : Nat}
    (hn : depth? 0 (texts cs) = some n) {b : Block} (hb : ∀ x ∈ blocksIn [b], Sound x)
    (rest : List Char) : ∃ order, Below (placed orderAt order b) n
      (parse (String.ofList (cs ++ (written 0 b ++ rest)))).blocks := by
  obtain ⟨level, outer, last, line, rfl, hopened, hrun⟩ := h.run hw hn
  obtain ⟨last', line', hread⟩ := readAll_written 0 b hb level outer last line rest
  have hheld : Draft.Holds ⟨placed orderAt (orderAt level.length) b :: level, outer, true, last'⟩
      (placed orderAt (orderAt level.length) b) outer.length := Or.inl ⟨0, rfl, List.mem_cons_self⟩
  have hbelow := hheld.below_readAll ⟨nofun, hopened⟩ (Caddyfile.tokensFrom line' rest)
  rw [← hread, ← hrun] at hbelow
  refine ⟨orderAt level.length, ?_⟩
  rwa [parse, tokens, String.toList_ofList]

/-- No word is written with a line break at its end. -/
theorem not_wholeLines_writtenKey (key : List Char) : ¬WholeLines (writtenKey key) := by
  intro h
  have hlast : ∀ (d : Char) (cs : List Char), WholeLines (cs ++ [d]) → d = '\n' :=
    fun d cs hcs => hcs d (by simp)
  rcases writtenKey_cases key with ⟨hq, hw⟩ | ⟨-, -, hw⟩ | ⟨-, -, hw⟩
  · obtain ⟨hne, hall⟩ := needsQuotes_eq_false_iff.1 hq
    rw [hw] at h
    have hn := h _ (List.getLast?_eq_some_getLast hne)
    have hb := (hall _ (List.getLast_mem hne)).1
    rw [hn] at hb
    exact absurd hb (by decide)
  · rw [hw] at h
    exact absurd (hlast _ _ h) (by decide)
  · rw [hw] at h
    exact absurd (hlast _ _ h) (by decide)

/-- Whole lines of legible words are read as these words, whatever follows. -/
theorem Lays.texts_append {ws : List String} {cs : List Char} (h : Lays ws cs)
    (hl : ∀ w ∈ ws, Legible w) (hw : WholeLines cs) (rest : List Char) :
    texts (cs ++ rest) = ws ++ texts rest := by
  suffices hline : ∀ line, (Caddyfile.tokensFrom line (cs ++ rest)).map (·.text) =
      ws ++ texts rest from hline 1
  intro line
  induction h generalizing line with
  | nil => exact map_text_tokensFrom line rest
  | @blank c ws cs hc _ ih =>
    rw [List.cons_append, map_text_tokensFrom, ← ih hl hw.tail 1]
    by_cases hn : c = '\n'
    · rw [hn, texts, tokensFrom_newline, map_text_tokensFrom, texts]
    · unfold texts
      rw [tokensFrom_blank hc hn]
  | @word key ws cs hr _ ih =>
    rw [List.forall_mem_cons] at hl
    have hne : cs ≠ [] := by
      rintro rfl
      rw [List.append_nil] at hw
      exact not_wholeLines_writtenKey _ hw
    have hends : EndsWord (cs ++ rest) := by
      cases cs with
      | nil => exact absurd rfl hne
      | cons c cs => exact hr
    rw [List.append_assoc, tokensFrom_writtenKey ((legible_iff key).1 hl.1) hends,
      String.ofList_toList, List.map_cons, ih hl.2 hw.drop]
    rfl

theorem legible_wordsIn {bs : List Block} (h : ∀ b ∈ blocksIn bs, ∀ key ∈ b.keys, Legible key) :
    ∀ w ∈ wordsIn bs, Legible w := by
  intro w hw
  rw [(wordsIn_perm bs).mem_iff, List.mem_flatMap] at hw
  obtain ⟨s, hs, hw⟩ := hw
  obtain ⟨b, hb, rfl⟩ := List.mem_map.1 hs
  rcases List.mem_append.1 hw with hk | hbrace
  · exact h b hb w hk
  · have hcases : w = openBrace ∨ w = closeBrace := by
      split at hbrace
      · cases hbrace
      · simpa using hbrace
    rcases hcases with rfl | rfl <;> decide

theorem wholeLines_writtenAll (level : Nat) (bs : List Block) : WholeLines (writtenAll level bs) := by
  intro c hc
  rcases List.eq_nil_or_concat bs with rfl | ⟨as, b, rfl⟩
  · cases hc
  · obtain ⟨keys, order, children⟩ := b
    rw [List.concat_eq_append, writtenAll_append, writtenAll, writtenAll, written] at hc
    simpa using hc.symm

/-- The text of sound blocks is self-contained. -/
theorem selfContained_writtenAll {bs : List Block} (h : ∀ b ∈ blocksIn bs, Sound b) :
    SelfContained (writtenAll 0 bs) := by
  have hlays := Lays.writtenAll 0 bs Lays.nil
  rw [List.append_nil, List.append_nil] at hlays
  have hread := hlays.texts_append (legible_wordsIn fun b hb => (h b hb).legible)
    (wholeLines_writtenAll 0 bs)
  refine ⟨fun rest => ?_, ?_⟩
  · have hnil := hread []
    rw [List.append_nil, texts_nil, List.append_nil] at hnil
    rw [hread, hnil]
  · obtain ⟨last, line, hrun⟩ := readAll_writtenAll 0 bs h [] [] none 1 []
    rw [List.append_nil, tokensFrom_nil] at hrun
    unfold parse tokens
    rw [String.toList_ofList, Draft.start, hrun]
    rfl

end ProxyFleet.Caddyfile
