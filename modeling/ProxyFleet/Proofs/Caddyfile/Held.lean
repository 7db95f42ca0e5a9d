import ProxyFleet.Proofs.Caddyfile.Reader

/-!
What has been read stays. Once a block is finished, no further word changes it or the depth at which
it stands, and the written tree has it that many tabs in.
-/

namespace ProxyFleet.Caddyfile

/-- The block is found this many levels below these siblings. -/
def Below (c : Block) : Nat → List Block → Prop
  | 0, bs => c ∈ bs
  | n + 1, bs => ∃ b ∈ bs, Below c n b.children

theorem Below.mono {c : Block} {n : Nat} {as bs : List Block} (h : Below c n as)
    (hs : ∀ b ∈ as, b ∈ bs) : Below c n bs := by
  cases n with
  | zero => exact hs c h
  | succ n =>
    obtain ⟨b, hb, h⟩ := h
    exact ⟨b, hs b hb, h⟩

def HeldBelow (c : Block) (n : Nat) : List (List Block) → Prop
  | [] => False
  | level :: outer => (∃ k, n = outer.length + k ∧ Below c k level.tail) ∨ HeldBelow c n outer

namespace Draft

/-- The blocks of the current level that no further word goes to. -/
def finished (d : Draft) : List Block := if d.fresh then d.level else d.level.tail

/-- The block is finished and stands at this depth. -/
def Holds (d : Draft) (c : Block) (n : Nat) : Prop :=
  (∃ k, n = d.outer.length + k ∧ Below c k d.finished) ∨ HeldBelow c n d.outer

theorem mem_of_mem_finished {d : Draft} {b : Block} (h : b ∈ d.finished) : b ∈ d.level := by
  unfold finished at h
  split at h
  · exact h
  · exact List.mem_of_mem_tail h

theorem mem_tail_of_mem_finished {d : Draft} {level : List Block}
    (hl : d.Begins level) {b : Block} (h : b ∈ d.finished) : b ∈ level.tail := by
  rcases hl with ⟨rfl, hf⟩ | rfl
  · rwa [finished, hf] at h
  · exact mem_of_mem_finished h

theorem below_adopt {c : Block} {k : Nat} {inner level : List Block} (hu : Unfinished level)
    (h : Below c k inner) : Below c (k + 1) (adopt inner level) := by
  obtain ⟨b, older, rfl, -⟩ := hu
  exact ⟨_, List.mem_cons_self, h.mono fun x hx => List.mem_reverse.2 hx⟩

theorem mem_adopt_of_mem_tail {inner level : List Block} {b : Block} (h : b ∈ level.tail) :
    b ∈ adopt inner level := by
  cases level with
  | nil => cases h
  | cons a older => exact List.mem_cons_of_mem _ h

/-- No word takes back what is finished. -/
theorem Holds.read? {d d' : Draft} {c : Block} {n : Nat} (h : d.Holds c n)
    (ho : ∀ level ∈ d.outer, Unfinished level) {t : Token} (ht : d.read? t = some d') :
    d'.Holds c n := by
  obtain ⟨inner, outer, fresh, last⟩ := d
  rcases read?_cases ht with ⟨-, level, o, he, rfl⟩ | ⟨level, hl, ⟨-, rfl⟩ | ⟨-, rfl⟩⟩
  · obtain rfl : outer = level :: o := he
    rcases h with ⟨k, hk, hb⟩ | ⟨k, hk, hb⟩ | hout
    · refine Or.inl ⟨k + 1, ?_, ?_⟩
      · rw [hk]
        simp only [List.length_cons]
        omega
      · exact below_adopt (ho level List.mem_cons_self) (hb.mono fun x hx => mem_of_mem_finished hx)
    · exact Or.inl ⟨k, hk, hb.mono fun x hx => mem_adopt_of_mem_tail hx⟩
    · exact Or.inr hout
  · rcases h with ⟨k, hk, hb⟩ | hout
    · exact Or.inr (Or.inl ⟨k, hk, hb.mono fun x hx => mem_tail_of_mem_finished hl hx⟩)
    · exact Or.inr (Or.inr hout)
  · rcases h with ⟨k, hk, hb⟩ | hout
    · refine Or.inl ⟨k, hk, hb.mono fun x hx => ?_⟩
      have hx := mem_tail_of_mem_finished hl hx
      cases level with
      | nil => cases hx
      | cons b older => exact hx
    · exact Or.inr hout

theorem below_foldl_adopt {c : Block} {n : Nat} {outer : List (List Block)}
    (ho : ∀ level ∈ outer, Unfinished level) : ∀ {level : List Block},
    (∃ k, n = outer.length + k ∧ Below c k level) ∨ HeldBelow c n outer →
    Below c n (outer.foldl adopt level) := by
  induction outer with
  | nil =>
    rintro level (⟨k, rfl, hb⟩ | hout)
    · simpa using hb
    · exact hout.elim
  | cons next outer ih =>
    intro level h
    rw [List.forall_mem_cons] at ho
    apply ih ho.2
    rcases h with ⟨k, hk, hb⟩ | ⟨k, hk, hb⟩ | hout
    · refine Or.inl ⟨k + 1, ?_, below_adopt ho.1 hb⟩
      rw [hk, List.length_cons]
      omega
    · exact Or.inl ⟨k, hk, hb.mono fun x hx => mem_adopt_of_mem_tail hx⟩
    · exact Or.inr hout

theorem Holds.below_blocks {d : Draft} {c : Block} {n : Nat} (h : d.Holds c n)
    (ho : ∀ level ∈ d.outer, Unfinished level) : Below c n d.blocks := by
  have hlevels : (∃ k, n = d.outer.length + k ∧ Below c k d.level) ∨ HeldBelow c n d.outer := by
    rcases h with ⟨k, hk, hb⟩ | hout
    · exact Or.inl ⟨k, hk, hb.mono fun x hx => mem_of_mem_finished hx⟩
    · exact Or.inr hout
  exact (below_foldl_adopt ho hlevels).mono fun x hx => List.mem_reverse.2 hx

/-- What is finished is found at its depth in what is read in the end. -/
theorem Holds.below_readAll {d : Draft} {c : Block} {n : Nat} (h : d.Holds c n)
    (hp : d.Proper) (ts : List Token) :
    Below c n (d.readAll ts).blocks := by
  obtain ⟨used, d', -, hrun, hblocks, -⟩ := readAll_run ts d
  have hinv := run?_preserves (P := fun d => d.Proper ∧ d.Holds c n)
    (fun _ hd ht => ⟨hd.1.read? ht, hd.2.read? hd.1.opened ht⟩) ⟨hp, h⟩ hrun
  rw [hblocks]
  exact hinv.2.below_blocks hinv.1.opened

end Draft

theorem Below.sort {c : Block} (hc : sortWithin c = c) {n : Nat} {bs : List Block}
    (h : Below c n bs) : Below c n (sort bs) := by
  induction n generalizing bs with
  | zero => exact mem_sort.2 ⟨c, h, hc⟩
  | succ n ih =>
    obtain ⟨b, hb, h⟩ := h
    refine ⟨sortWithin b, mem_sort.2 ⟨b, hb, rfl⟩, ?_⟩
    cases b
    exact ih h

theorem written_children {b : Block} (h : b.children ≠ []) (level : Nat) :
    ∃ before after, written level b = before ++ writtenAll (level + 1) b.children ++ after := by
  obtain ⟨keys, order, children⟩ := b
  refine ⟨List.replicate level '\t' ++ writtenKeys keys ++
    (if keys.isEmpty then [] else [' ']) ++ ['\x7b', '\n'],
    List.replicate level '\t' ++ ['\x7d', '\n'], ?_⟩
  rw [written, if_neg (by simpa using h)]
  simp

theorem writtenAll_of_mem {b : Block} {bs : List Block} (h : b ∈ bs) (level : Nat) :
    ∃ before after, writtenAll level bs = before ++ written level b ++ after := by
  obtain ⟨as, cs, rfl⟩ := List.append_of_mem h
  refine ⟨writtenAll level as, writtenAll level cs, ?_⟩
  rw [writtenAll_append, writtenAll, List.append_assoc]

/-- A block is written as many tabs in as its depth says. -/
theorem Below.writtenAll {c : Block} {n : Nat} {bs : List Block} (h : Below c n bs)
    (level : Nat) : ∃ before after, writtenAll level bs = before ++ written (level + n) c ++ after := by
  induction n generalizing bs level with
  | zero => exact writtenAll_of_mem h level
  | succ n ih =>
    obtain ⟨b, hb, h⟩ := h
    have hne : b.children ≠ [] := by
      intro hnil
      rw [hnil] at h
      cases n <;> simp [Below] at h
    obtain ⟨before, after, hw⟩ := writtenAll_of_mem hb level
    obtain ⟨before', after', hc⟩ := written_children hne level
    obtain ⟨before'', after'', hn⟩ := ih h (level + 1)
    refine ⟨before ++ before' ++ before'', after'' ++ after' ++ after, ?_⟩
    rw [hw, hc, hn, Nat.add_right_comm level 1 n, Nat.add_assoc level n 1]
    simp

end ProxyFleet.Caddyfile
