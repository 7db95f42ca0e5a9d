import ProxyFleet.Proofs.Caddyfile.Balanced
import ProxyFleet.Proofs.Caddyfile.Spelling

/-!
Which words come to stand in one block. The keys of all blocks of a tree, one list for each block and
every block before those below it, are the words in the order of the text. A word goes to the block
of the word before it if no line ends between them. What is read later makes the last of the lists
longer or adds more behind it, so that two words stay apart or together as they were read. Behind a
closing brace that closes nothing there is nothing to be kept together.
-/

namespace ProxyFleet.Caddyfile

def plain (ws : List String) : List String :=
  ws.filter fun w => w ≠ openBrace ∧ w ≠ closeBrace

def keyLists (bs : List Block) : List (List String) := (blocksIn bs).map (·.keys)

/-- Some list has the words `a` and `b` next to each other, where `before` are the words of the
earlier lists and of this one up to there. -/
def SideBySide (lists : List (List String)) (before : List String) (a b : String) : Prop :=
  ∃ first pre post last, lists = first ++ (pre ++ a :: b :: post) :: last ∧
    first.flatten ++ pre = before

/-- Only the last list is made longer, and more may follow it. -/
def Grows (lists lists' : List (List String)) : Prop :=
  ∀ init last, lists = init ++ [last] → ∃ more tail, lists' = init ++ (last ++ more) :: tail

/-! Lists of words that grow at their end. -/

theorem Grows.refl (lists : List (List String)) : Grows lists lists :=
  fun _ _ h => ⟨[], [], by rw [h, List.append_nil]⟩

theorem grows_concat (lists : List (List String)) (words : List String) :
    Grows lists (lists ++ [words]) :=
  fun _ _ h => ⟨[], [words], by rw [h, List.append_nil, List.append_assoc]; rfl⟩

theorem grows_last (init : List (List String)) (last more : List String) :
    Grows (init ++ [last]) (init ++ [last ++ more]) := by
  intro init' last' h
  obtain ⟨rfl, rfl⟩ := List.append_singleton_inj.1 h
  exact ⟨more, [], rfl⟩

theorem Grows.trans {as bs cs : List (List String)} (hb : Grows as bs) (hc : Grows bs cs) :
    Grows as cs := by
  intro init last h
  obtain ⟨more, tail, rfl⟩ := hb init last h
  rcases List.eq_nil_or_concat tail with rfl | ⟨tail, words, rfl⟩
  · obtain ⟨more', tail', rfl⟩ := hc init (last ++ more) rfl
    exact ⟨more ++ more', tail', by rw [List.append_assoc]⟩
  · obtain ⟨more', tail', rfl⟩ := hc (init ++ (last ++ more) :: tail) words (by simp)
    exact ⟨more, tail ++ (words ++ more') :: tail', by simp⟩

theorem length_flatten_le_of_prefix {as bs : List (List String)} (h : as <+: bs) :
    as.flatten.length ≤ bs.flatten.length := by
  obtain ⟨more, rfl⟩ := h
  rw [List.flatten_append, List.length_append]
  omega

theorem SideBySide.length_le {lists : List (List String)} {before : List String} {a b : String}
    (h : SideBySide lists before a b) : before.length + 2 ≤ lists.flatten.length := by
  obtain ⟨first, pre, post, last, rfl, rfl⟩ := h
  simp only [List.flatten_append, List.flatten_cons, List.length_append, List.length_cons]
  omega

/-- Where a list ends behind `a`, no other word stands next to it. -/
theorem not_sideBySide_of_length {lists : List (List String)} {before : List String}
    (h : lists.flatten.length = before.length + 1) (tail : List (List String)) (a b : String) :
    ¬ SideBySide (lists ++ tail) before a b := by
  rintro ⟨first, pre, post, last, he, rfl⟩
  have hline : first ++ [pre ++ a :: b :: post] <+: lists ++ tail := ⟨last, by simp [he]⟩
  have hlong : (first.flatten ++ pre).length + 2 ≤
      (first ++ [pre ++ a :: b :: post]).flatten.length :=
    SideBySide.length_le ⟨first, pre, post, [], rfl, rfl⟩
  rcases List.prefix_or_prefix_of_prefix hline (List.prefix_append lists tail) with hp | hp
  · have hle := length_flatten_le_of_prefix hp
    omega
  · rcases List.prefix_concat_iff.1 hp with rfl | hp
    · omega
    · have hle := length_flatten_le_of_prefix hp
      rw [List.length_append] at h
      omega

/-! The lists of a draft. -/

theorem keyLists_append (as bs : List Block) : keyLists (as ++ bs) = keyLists as ++ keyLists bs := by
  unfold keyLists
  rw [blocksIn_eq_flatMap, blocksIn_eq_flatMap, blocksIn_eq_flatMap, List.flatMap_append,
    List.map_append]

theorem keyLists_reverse_cons (keys : List String) (order : Int) (children older : List Block) :
    keyLists (⟨keys, order, children⟩ :: older).reverse =
      keyLists older.reverse ++ keys :: keyLists children := by
  rw [List.reverse_cons, keyLists_append]
  simp [keyLists, blocksIn, blocksWithin]

namespace Draft

def keyListsOpen : List (List Block) → List (List String)
  | [] => []
  | level :: outer => keyListsOpen outer ++ Caddyfile.keyLists level.reverse

def keyLists (d : Draft) : List (List String) := keyListsOpen (d.level :: d.outer)

theorem keyListsOpen_nil_cons (outer : List (List Block)) :
    keyListsOpen ([] :: outer) = keyListsOpen outer :=
  List.append_nil _

theorem keyListsOpen_begin (order : Int) (level : List Block) (outer : List (List Block)) :
    keyListsOpen ((⟨[], order, []⟩ :: level) :: outer) = keyListsOpen (level :: outer) ++ [[]] := by
  rw [keyListsOpen, keyListsOpen, keyLists_reverse_cons, List.append_assoc]
  rfl

theorem keyListsOpen_adopt {level : List Block} (h : Unfinished level) (inner : List Block)
    (outer : List (List Block)) :
    keyListsOpen (adopt inner level :: outer) = keyListsOpen (inner :: level :: outer) := by
  obtain ⟨⟨keys, order, children⟩, older, rfl, hc⟩ := h
  obtain rfl : children = [] := hc
  rw [adopt, keyListsOpen, keyListsOpen, keyListsOpen, keyLists_reverse_cons,
    keyLists_reverse_cons]
  simp [Caddyfile.keyLists, blocksIn]

theorem keyListsOpen_addKey {level : List Block} (h : Unfinished level) (key : String)
    (outer : List (List Block)) : ∃ init last,
      keyListsOpen (level :: outer) = init ++ [last] ∧
      keyListsOpen (addKey key level :: outer) = init ++ [last ++ [key]] := by
  obtain ⟨⟨keys, order, children⟩, older, rfl, hc⟩ := h
  obtain rfl : children = [] := hc
  refine ⟨keyListsOpen outer ++ Caddyfile.keyLists older.reverse, keys, ?_, ?_⟩
  · rw [keyListsOpen, keyLists_reverse_cons, ← List.append_assoc]
    rfl
  · rw [addKey, Block.addKeys, keyListsOpen, keyLists_reverse_cons, ← List.append_assoc]
    rfl

theorem Proper.keyLists_blocks {d : Draft} (h : d.Proper) :
    Caddyfile.keyLists d.blocks = d.keyLists := by
  obtain ⟨level, outer, fresh, line⟩ := d
  induction outer generalizing level fresh with
  | nil => rfl
  | cons next outer ih =>
    have hclosed := ih _ _ h.adopt
    exact Eq.trans hclosed (keyListsOpen_adopt (h.opened next List.mem_cons_self) level outer)

/-! What one word does, and what a run does. -/

def starts (d : Draft) (t : Token) : Bool := d.fresh || d.line.any (· ≠ t.line)

/-- A word makes a list of its own or goes to the end of the last one. -/
theorem Proper.keyLists_word {d : Draft} (h : d.Proper) {t : Token}
    (hk : t.text ≠ openBrace ∧ t.text ≠ closeBrace) :
    ∃ d', d.read? t = some d' ∧ d'.fresh = false ∧
      ((d.starts t = true ∧ d'.keyLists = d.keyLists ++ [[t.text]]) ∨
        (d.starts t = false ∧ ∃ init last, d.keyLists = init ++ [last] ∧
          d'.keyLists = init ++ [last ++ [t.text]])) := by
  refine ⟨_, by rw [Draft.read?, if_neg hk.2, if_neg hk.1], rfl, ?_⟩
  unfold keyLists starts
  cases hb : d.fresh || d.line.any (· ≠ t.line) with
  | true =>
    obtain ⟨init, last, hbegun, hkey⟩ := keyListsOpen_addKey
      ⟨⟨[], orderAt d.level.length, []⟩, d.level, rfl, rfl⟩ t.text d.outer
    obtain ⟨rfl, rfl⟩ := List.append_singleton_inj.1 ((keyListsOpen_begin _ _ _).symm.trans hbegun)
    exact Or.inl ⟨rfl, hkey⟩
  | false =>
    have hf : d.fresh = false := (Bool.or_eq_false_iff.1 hb).1
    exact Or.inr ⟨rfl, keyListsOpen_addKey (h.unfinished hf) t.text d.outer⟩

/-- A brace leaves the lists alone, or an opening one starts an empty list. -/
theorem Proper.keyLists_brace {d d' : Draft} (h : d.Proper) {t : Token}
    (ht : d.read? t = some d') (hk : ¬ (t.text ≠ openBrace ∧ t.text ≠ closeBrace)) :
    d'.keyLists = d.keyLists ∨ d'.keyLists = d.keyLists ++ [[]] := by
  unfold keyLists
  rcases read?_cases ht with ⟨-, level, outer, ho, rfl⟩ | ⟨level, hl, ⟨-, rfl⟩ | ⟨hword, -⟩⟩
  · rw [ho]
    exact Or.inl (keyListsOpen_adopt (h.opened level (by simp [ho])) _ _)
  · rw [keyListsOpen_nil_cons]
    rcases hl with ⟨rfl, -⟩ | rfl
    · exact Or.inl rfl
    · exact Or.inr (keyListsOpen_begin _ _ _)
  · exact absurd hword hk

theorem Proper.grows_read? {d d' : Draft} (h : d.Proper) {t : Token}
    (ht : d.read? t = some d') :
    Grows d.keyLists d'.keyLists ∧ d'.keyLists.flatten = d.keyLists.flatten ++ plain [t.text] := by
  by_cases hk : t.text ≠ openBrace ∧ t.text ≠ closeBrace
  · have hplain : plain [t.text] = [t.text] := by simp [plain, hk]
    obtain ⟨e, he, -, ⟨-, hlists⟩ | ⟨-, init, last, hd, hlists⟩⟩ := h.keyLists_word hk
    all_goals
      obtain rfl : d' = e := Option.some.inj (ht.symm.trans he)
      rw [hlists, hplain]
    · exact ⟨grows_concat _ _, by simp⟩
    · rw [hd]
      exact ⟨grows_last _ _ _, by simp⟩
  · have hplain : plain [t.text] = [] := by simpa [plain] using hk
    rw [hplain, List.append_nil]
    rcases h.keyLists_brace ht hk with hlists | hlists
    · rw [hlists]
      exact ⟨Grows.refl _, rfl⟩
    · rw [hlists]
      exact ⟨grows_concat _ _, by simp⟩

theorem Proper.run? {d d' : Draft} {ts : List Token} (h : d.Proper) (hr : d.run? ts = some d') :
    d'.Proper :=
  run?_preserves (fun _ h ht => h.read? ht) h hr

theorem Proper.grows_run? {d d' : Draft} {ts : List Token} (h : d.Proper)
    (hr : d.run? ts = some d') : Grows d.keyLists d'.keyLists :=
  (run?_preserves (P := fun e => e.Proper ∧ Grows d.keyLists e.keyLists)
    (fun _ he ht => ⟨he.1.read? ht, he.2.trans (he.1.grows_read? ht).1⟩) ⟨h, Grows.refl _⟩ hr).2

/-- No word is lost and none changes its place. -/
theorem flatten_keyLists {d : Draft} {ts : List Token} (hr : start.run? ts = some d) :
    d.keyLists.flatten = plain (ts.map (·.text)) := by
  have hstart : start.keyLists.flatten = plain [] := rfl
  have hrun := run?_invariant (P := fun e read => e.Proper ∧ e.keyLists.flatten = plain read)
    (fun _ he ht => ⟨he.1.read? ht, by
      rw [(he.1.grows_read? ht).2, he.2, plain, plain, plain, List.filter_append]⟩)
    ⟨follows_start.proper, hstart⟩ hr
  rw [hrun.2, List.nil_append]

/-- Of two words read one after the other the second goes to the list that the first one ends, unless
a line ends between them. -/
theorem Proper.keyLists_pair {d : Draft} (h : d.Proper) {a b : Token}
    (ha : a.text ≠ openBrace ∧ a.text ≠ closeBrace)
    (hb : b.text ≠ openBrace ∧ b.text ≠ closeBrace) :
    ∃ d' init pre, d.run? [a, b] = some d' ∧ init.flatten ++ pre = d.keyLists.flatten ∧
      d'.keyLists = if a.line + a.text.toList.count '\n' = b.line
        then init ++ [pre ++ [a.text, b.text]]
        else init ++ [pre ++ [a.text]] ++ [[b.text]] := by
  obtain ⟨e, hread, hfresh, hlists⟩ := h.keyLists_word ha
  -- Whether `a` started a list or not, it ends one now.
  obtain ⟨init, pre, hlast, hflat⟩ : ∃ init pre, e.keyLists = init ++ [pre ++ [a.text]] ∧
      init.flatten ++ pre = d.keyLists.flatten := by
    rcases hlists with ⟨-, hnew⟩ | ⟨-, init, last, hd, hnew⟩
    · exact ⟨d.keyLists, [], hnew, by simp⟩
    · exact ⟨init, last, hnew, by simp [hd]⟩
  obtain ⟨f, hread', -, hlists'⟩ := (h.read? hread).keyLists_word hb
  have hstarts : e.starts b = decide (a.line + a.text.toList.count '\n' ≠ b.line) := by
    rw [starts, hfresh, line_of_read? hread]
    rfl
  rw [hstarts, decide_eq_true_iff, decide_eq_false_iff_not, not_not] at hlists'
  refine ⟨f, init, pre, by simp only [Draft.run?, hread, hread', Option.bind_some], hflat, ?_⟩
  rcases hlists' with ⟨hne, hnew⟩ | ⟨heq, init', last, he, hnew⟩
  · rw [if_neg hne, hnew, hlast]
  · obtain ⟨rfl, rfl⟩ := List.append_singleton_inj.1 (hlast.symm.trans he)
    rw [if_pos heq, hnew, List.append_assoc pre]
    rfl

/-- What is read behind two words leaves them together or apart. -/
theorem sideBySide_iff {d : Draft} (h : d.Proper) {a b : Token}
    (ha : a.text ≠ openBrace ∧ a.text ≠ closeBrace)
    (hb : b.text ≠ openBrace ∧ b.text ≠ closeBrace) (ts : List Token) :
    SideBySide (Caddyfile.keyLists (d.readAll (a :: b :: ts)).blocks) d.keyLists.flatten a.text
      b.text ↔ a.line + a.text.toList.count '\n' = b.line := by
  obtain ⟨e, init, pre, hpair, hflat, hlists⟩ := h.keyLists_pair ha hb
  obtain ⟨used, f, -, hrun, hblocks, -⟩ := readAll_run ts e
  have hp := h.run? hpair
  have hall : Caddyfile.keyLists (d.readAll (a :: b :: ts)).blocks = f.keyLists := by
    have happ := readAll_append hpair ts
    rw [List.cons_append, List.singleton_append] at happ
    rw [happ, hblocks, (hp.run? hrun).keyLists_blocks]
  have hgrows := hp.grows_run? hrun
  rw [hall, ← hflat]
  split at hlists
  · next heq =>
    obtain ⟨more, tail, hf⟩ := hgrows _ _ hlists
    exact iff_of_true ⟨init, pre, more, tail, by simpa using hf, rfl⟩ heq
  · next hne =>
    obtain ⟨more, tail, hf⟩ := hgrows _ _ hlists
    have hlength : (init ++ [pre ++ [a.text]]).flatten.length = (init.flatten ++ pre).length + 1 := by
      simp
      omega
    rw [hf]
    exact iff_of_false (not_sideBySide_of_length hlength _ _ _) hne

/-- Behind a closing brace that closes nothing no words are read. -/
theorem not_sideBySide_of_run?_eq_none {ts : List Token} (h : start.run? ts = none)
    (more : List Token) (a b : String) :
    ¬ SideBySide (Caddyfile.keyLists (start.readAll (ts ++ more)).blocks)
      (plain (ts.map (·.text))) a b := by
  intro hside
  obtain ⟨used, d, hused, hrun, hblocks, -⟩ := readAll_run ts start
  have hlong := hside.length_le
  rw [readAll_append_of_none h, hblocks, (follows_start.proper.run? hrun).keyLists_blocks,
    flatten_keyLists hrun] at hlong
  have hshort : (plain (used.map (·.text))).length ≤ (plain (ts.map (·.text))).length :=
    ((hused.sublist.map _).filter _).length_le
  omega

end Draft

theorem sideBySide_readAll_iff {ts : List Token} {a b : Token}
    (ha : a.text ≠ openBrace ∧ a.text ≠ closeBrace)
    (hb : b.text ≠ openBrace ∧ b.text ≠ closeBrace) (more : List Token) :
    SideBySide (keyLists (Draft.start.readAll (ts ++ a :: b :: more)).blocks)
      (plain (ts.map (·.text))) a.text b.text ↔
    Opened (ts.map (·.text)) ∧ a.line + a.text.toList.count '\n' = b.line := by
  rw [Draft.opened_iff]
  cases hrun : Draft.start.run? ts with
  | none =>
    refine iff_of_false (Draft.not_sideBySide_of_run?_eq_none hrun _ _ _) ?_
    rintro ⟨⟨d, hd⟩, -⟩
    cases hd
  | some d =>
    have hp := Draft.follows_start.proper.run? hrun
    rw [Draft.readAll_append hrun, ← Draft.flatten_keyLists hrun, Draft.sideBySide_iff hp ha hb]
    exact ⟨fun h => ⟨⟨d, rfl⟩, h⟩, fun h => h.2⟩

/-- However a text is spelled out, its words are read on the lines on which they stand, and of two words
that follow one another the second goes to the block of the first if and only if there is no line
break between them, as long as no closing brace in front of them closes nothing. -/
theorem grouped_by_line (text : String) :
    (∃ os, SpelledOut text.toList os) ∧ ∀ os, SpelledOut text.toList os →
    spelling os <+: text.toList ∧
    (tokens text = os.mapIdx fun i o =>
      ⟨o.text, 1 + (spelling (os.take i) ++ o.gap).count '\n'⟩) ∧
    ∀ front a b back, os = front ++ a :: b :: back →
      (a.text ≠ openBrace ∧ a.text ≠ closeBrace) → (b.text ≠ openBrace ∧ b.text ≠ closeBrace) →
      (SideBySide (keyLists (parseBytes (Text.utf8 text)).blocks) (plain (front.map (·.text)))
          a.text b.text ↔
        Opened (front.map (·.text)) ∧ '\n' ∉ b.gap) := by
  refine ⟨exists_spelledOut text.toList, fun os h => ⟨h.spelling_prefix, h.tokensFrom 1, ?_⟩⟩
  rintro front a b back rfl ha hb
  obtain ⟨ts, s, t, more, hread, hfront, hs, ht, hline⟩ := h.tokens_pair
  have hgap : s.line + s.text.toList.count '\n' = t.line ↔ '\n' ∉ b.gap := by
    rw [hline, ← List.count_eq_zero]
    omega
  rw [← hs] at ha
  rw [← ht] at hb
  rw [parseBytes, Text.lossy_utf8, parse, hread, ← hfront, ← hs, ← ht,
    sideBySide_readAll_iff ha hb, hgap]

/-- The line break within a word is none between two words; the one behind a remark is. -/
theorem grouped_by_line_remark :
    SideBySide (keyLists (parseBytes (Text.utf8 "a \"#\n\" b # x\nc")).blocks) ["a"] "#\n" "b" ∧
    ¬ SideBySide (keyLists (parseBytes (Text.utf8 "a \"#\n\" b # x\nc")).blocks) ["a", "#\n"]
      "b" "c" := by
  have hquoted (rest : List Char) : Spells ['"', '#', '\n', '"'] ['#', '\n'] rest :=
    .quoted (.plain (by decide) (by decide) (.plain (by decide) (by decide) .nil))
  have hremark : Gap ['c'] [' ', '#', ' ', 'x', '\n'] :=
    .blank (by decide) <| .comment (show '\n' ∉ [' ', 'x'] by decide) (endsLine_cons _) <|
      .blank (by decide) .nil
  have htext : "a \"#\n\" b # x\nc".toList =
      ['a', ' ', '"', '#', '\n', '"', ' ', 'b', ' ', '#', ' ', 'x', '\n', 'c'] := by decide
  have hspelled : SpelledOut "a \"#\n\" b # x\nc".toList
      [⟨[], ['a'], "a"⟩, ⟨[' '], ['"', '#', '\n', '"'], "#\n"⟩, ⟨[' '], ['b'], "b"⟩,
        ⟨[' ', '#', ' ', 'x', '\n'], ['c'], "c"⟩] := by
    rw [htext]
    exact .word .nil (spells_char (by decide) (endsWord_space _)) <|
      .word (gap_space _) (hquoted _) <|
      .word (gap_space _) (spells_char (by decide) (endsWord_space _)) <|
      .word hremark (spells_char (by decide) endsWord_nil) (.last .nil)
  have hgroup := ((grouped_by_line _).2 _ hspelled).2.2
  refine ⟨(hgroup [_] _ _ [_] rfl (by decide) (by decide)).2 ⟨?_, by decide⟩, fun hside => ?_⟩
  · exact exists_depth?_iff.1 ⟨0, by decide⟩
  · exact ((hgroup [_, _] _ _ [] rfl (by decide) (by decide)).1 hside).2 (by decide)

/-- Behind a brace that closes nothing the words of a line are in no block. -/
theorem not_grouped_by_line_unopened : ¬ ∀ text os, SpelledOut (String.toList text) os →
    ∀ front a b back, os = front ++ a :: b :: back →
      (a.text ≠ openBrace ∧ a.text ≠ closeBrace) → (b.text ≠ openBrace ∧ b.text ≠ closeBrace) →
      (SideBySide (keyLists (parseBytes (Text.utf8 text)).blocks) (plain (front.map (·.text)))
          a.text b.text ↔ '\n' ∉ b.gap) := by
  intro h
  have htext : "\x7d a b".toList = ['\x7d', ' ', 'a', ' ', 'b'] := by decide
  have hspelled : SpelledOut "\x7d a b".toList
      [⟨[], ['\x7d'], "\x7d"⟩, ⟨[' '], ['a'], "a"⟩, ⟨[' '], ['b'], "b"⟩] := by
    rw [htext]
    exact .word .nil (spells_char (by decide) (endsWord_space _)) <|
      .word (gap_space _) (spells_char (by decide) (endsWord_space _)) <|
      .word (gap_space _) (spells_char (by decide) endsWord_nil) (.last .nil)
  have hside := (h _ _ hspelled [_] _ _ [] rfl (by decide) (by decide)).2 (by decide)
  -- The first word ends the reading, so that the tree is empty.
  have hread : tokens "\x7d a b" = _ := hspelled.tokensFrom 1
  rw [parseBytes, Text.lossy_utf8, parse, hread] at hside
  have hlong := hside.length_le
  exact absurd hlong (by decide)

end ProxyFleet.Caddyfile
