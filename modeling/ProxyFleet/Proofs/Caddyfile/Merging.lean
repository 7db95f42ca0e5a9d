import ProxyFleet.Caddyfile.Merge

/-!
Merging loses nothing. A block that is there keeps its place, its order and its words, and only a
proxying directive is given more words behind them; a block that is merged in is found again with its
name, its words or targets and all that is below it, however much is merged after it.
-/

namespace ProxyFleet.Caddyfile

theorem firstKey_eq_of_keys {a b : Block} (h : a.keys = b.keys) : a.firstKey = b.firstKey :=
  congrArg (·.headD "") h

theorem isProxying_eq_of_firstKey {a b : Block} (h : a.firstKey = b.firstKey) :
    a.isProxying = b.isProxying := by
  unfold Block.isProxying
  rw [h]

theorem matcher_eq_of_keys {a b : Block} (h : a.keys = b.keys) : a.matcher = b.matcher := by
  unfold Block.matcher
  rw [h]

/-! Which block another one joins, and what becomes of it. -/

theorem joins_iff {b target : Block} :
    b.joins target = true ↔ target.firstKey = b.firstKey ∧
      (b.isProxying = true ∧ target.matcher = b.matcher ∨ target.keys = b.keys) := by
  simp [Block.joins]

theorem joins_of_keys {b target : Block} (h : target.keys = b.keys) : b.joins target = true :=
  joins_iff.2 ⟨firstKey_eq_of_keys h, Or.inr h⟩

theorem firstKey_of_joins {b target : Block} (h : b.joins target = true) :
    target.firstKey = b.firstKey :=
  (joins_iff.1 h).1

theorem joins_eq_false {b target : Block} (h : target.firstKey ≠ b.firstKey) :
    b.joins target = false := by
  simp [Block.joins, h]

theorem isProxying_of_joins {b target : Block} (h : b.joins target = true) :
    target.isProxying = b.isProxying :=
  isProxying_eq_of_firstKey (firstKey_of_joins h)

theorem matcher_of_joins {b target : Block} (h : b.joins target = true) :
    target.matcher = b.matcher := by
  rcases (joins_iff.1 h).2 with ⟨-, hm⟩ | hk
  · exact hm
  · exact matcher_eq_of_keys hk

theorem children_join (b target : Block) :
    (join b target).children = mergeInto b.children target.children := by
  obtain ⟨keys, order, children⟩ := b
  rw [join]

theorem order_join (b target : Block) : (join b target).order = target.order := by
  obtain ⟨keys, order, children⟩ := b
  rw [join]

theorem keys_join_of_isProxying {b target : Block} (hb : b.isProxying = true)
    (h : b.joins target = true) : (join b target).keys = target.keys ++ b.arguments := by
  have hm := matcher_of_joins h
  obtain ⟨keys, order, children⟩ := b
  rw [join]
  simp [hb, hm]

/-- Only proxying directives are given words. -/
theorem keys_join {b target : Block} (hb : b.isProxying = false) :
    (join b target).keys = target.keys := by
  obtain ⟨keys, order, children⟩ := b
  rw [join]
  simp [hb]

theorem keys_prefix_join {b target : Block} (h : b.joins target = true) :
    target.keys <+: (join b target).keys := by
  cases hb : b.isProxying with
  | true =>
    rw [keys_join_of_isProxying hb h]
    exact List.prefix_append _ _
  | false => exact ⟨[], by rw [keys_join hb, List.append_nil]⟩

/-- A block that others join keeps its name. -/
theorem firstKey_join {b target : Block} (h : b.joins target = true) :
    (join b target).firstKey = target.firstKey := by
  cases hb : b.isProxying with
  | false => exact firstKey_eq_of_keys (keys_join hb)
  | true =>
    -- The name of a proxying directive is not empty, so there is a word that holds it.
    have ht := isProxying_of_joins h
    rw [Block.firstKey, keys_join_of_isProxying hb h, Block.firstKey]
    cases hk : target.keys with
    | cons key keys => rfl
    | nil =>
      rw [hb, Block.isProxying, Block.firstKey, hk] at ht
      cases ht

theorem isProxying_join {b target : Block} (h : b.joins target = true) :
    (join b target).isProxying = target.isProxying :=
  isProxying_eq_of_firstKey (firstKey_join h)

/-- The arguments are the words behind the name, or behind the name and a matcher. -/
theorem arguments_eq_drop (b : Block) :
    b.arguments = b.keys.drop (if b.keys[1]?.any isMatcher then 2 else 1) := by
  obtain ⟨keys, order, children⟩ := b
  match keys with
  | [] => rfl
  | [key] => rfl
  | name :: key :: rest =>
    simp only [Block.arguments, List.getElem?_cons_succ, List.getElem?_cons_zero, Option.any_some]
    split <;> rfl

mutual

/-- `after` stands where `before` stood: it has its order and its words, a proxying directive
perhaps more words behind them, and its children in their places. -/
def Extends : (before after : Block) → Prop
  | ⟨keys, order, children⟩, after =>
    after.order = order ∧ keys <+: after.keys ∧
      (Block.isProxying ⟨keys, order, children⟩ = false → after.keys = keys) ∧
      ExtendsAll children after.children

def ExtendsAll : (before after : List Block) → Prop
  | [], _ => True
  | _ :: _, [] => False
  | a :: before, b :: after => Extends a b ∧ ExtendsAll before after

end

mutual

/-- `r` stands for `b`: it has its name and, if it is a proxying directive, the words of `b` behind
the name and a matcher, next to each other; else it has the same words. All children of `b` are
represented among those of `r`. -/
def Represents : (b r : Block) → Prop
  | ⟨keys, order, children⟩, r =>
    let b : Block := ⟨keys, order, children⟩
    r.firstKey = b.firstKey ∧
      (if b.isProxying then keys.drop (if keys[1]?.any isMatcher then 2 else 1) <:+: r.keys
        else r.keys = keys) ∧
      RepresentedIn children r.children

def RepresentedIn : (blocks tree : List Block) → Prop
  | [], _ => True
  | b :: rest, tree => (∃ r ∈ tree, Represents b r) ∧ RepresentedIn rest tree

end

theorem extendsAll_iff {as bs : List Block} :
    ExtendsAll as bs ↔ ∀ (i : Nat) (a : Block), as[i]? = some a → ∃ b, bs[i]? = some b ∧ Extends a b := by
  induction as generalizing bs with
  | nil => simp [ExtendsAll]
  | cons a as ih =>
    cases bs with
    | nil =>
      refine ⟨fun h => h.elim, fun h => ?_⟩
      obtain ⟨b, hb, -⟩ := h 0 a rfl
      cases hb
    | cons b bs =>
      rw [ExtendsAll, ih]
      constructor
      · rintro ⟨hb, h⟩ i x hi
        cases i with
        | zero =>
          obtain rfl : a = x := by simpa using hi
          exact ⟨b, rfl, hb⟩
        | succ i => exact h i x (by simpa using hi)
      · intro h
        refine ⟨?_, fun i x hi => ?_⟩
        · obtain ⟨c, hc, hac⟩ := h 0 a rfl
          obtain rfl : b = c := by simpa using hc
          exact hac
        · simpa using h (i + 1) x (by simpa using hi)

theorem representedIn_iff {blocks tree : List Block} :
    RepresentedIn blocks tree ↔ ∀ b ∈ blocks, ∃ r ∈ tree, Represents b r := by
  induction blocks with
  | nil => simp [RepresentedIn]
  | cons b rest ih => rw [RepresentedIn, ih, List.forall_mem_cons]

/-! A block extends itself, and what extends an extension extends the block. -/

mutual

theorem Extends.refl : ∀ b : Block, Extends b b
  | ⟨keys, _, children⟩ => by
    rw [Extends]
    exact ⟨rfl, List.prefix_refl keys, fun _ => rfl, ExtendsAll.refl children⟩

theorem ExtendsAll.refl : ∀ bs : List Block, ExtendsAll bs bs
  | [] => trivial
  | b :: rest => ⟨Extends.refl b, ExtendsAll.refl rest⟩

end

/-- The name stays, and with it whether a directive is a proxying one. -/
theorem Extends.firstKey_eq {a b : Block} (h : Extends a b) : b.firstKey = a.firstKey := by
  obtain ⟨keys, order, children⟩ := a
  rw [Extends] at h
  obtain ⟨-, ⟨more, hk⟩, hsame, -⟩ := h
  unfold Block.firstKey
  rw [← hk]
  cases keys with
  | cons key keys => rfl
  | nil => rw [hk, hsame rfl]

mutual

theorem Extends.trans : ∀ {a b c : Block}, Extends a b → Extends b c → Extends a c
  | ⟨keys, order, children⟩, ⟨keys', order', children'⟩, c, hab, hbc => by
    have hname := hab.firstKey_eq
    rw [Extends] at hab hbc ⊢
    obtain ⟨ho, hk, hsame, hc⟩ := hab
    obtain ⟨ho', hk', hsame', hc'⟩ := hbc
    refine ⟨ho'.trans ho, hk.trans hk', fun hp => ?_, hc.trans hc'⟩
    exact (hsame' (by rw [isProxying_eq_of_firstKey hname, hp])).trans (hsame hp)

theorem ExtendsAll.trans : ∀ {as bs cs : List Block}, ExtendsAll as bs → ExtendsAll bs cs →
    ExtendsAll as cs
  | [], _, _, _, _ => trivial
  | _ :: _, [], _, h, _ => h.elim
  | _ :: _, _ :: _, [], _, h => h.elim
  | _ :: _, _ :: _, _ :: _, hab, hbc => ⟨hab.1.trans hbc.1, hab.2.trans hbc.2⟩

end

/-! What merging does to the blocks that are there. -/

/-- One block is merged in: it joins a block or is added behind all others. -/
theorem extendsAll_changeFirst {b : Block}
    (h : ∀ target, b.joins target = true → Extends target (join b target)) (tree : List Block) :
    ExtendsAll tree (changeFirst b.joins (join b) b tree) := by
  induction tree with
  | nil => trivial
  | cons a rest ih =>
    rw [changeFirst]
    split
    · next hj => exact ⟨h a hj, ExtendsAll.refl rest⟩
    · exact ⟨Extends.refl a, ih⟩

mutual

theorem extends_join : ∀ (b : Block) {target : Block}, b.joins target = true →
    Extends target (join b target)
  | ⟨keys, order, children⟩, target, h => by
    have hc : ExtendsAll target.children (join ⟨keys, order, children⟩ target).children := by
      rw [children_join]
      exact extendsAll_mergeInto children target.children
    have ho := order_join ⟨keys, order, children⟩ target
    have hk := keys_prefix_join h
    have hproxying := isProxying_of_joins h
    obtain ⟨tkeys, torder, tchildren⟩ := target
    rw [Extends]
    refine ⟨ho, hk, fun hp => ?_, hc⟩
    exact keys_join (by rw [← hproxying, hp])

theorem extendsAll_mergeInto : ∀ other base : List Block, ExtendsAll base (mergeInto other base)
  | [], base => by
    rw [mergeInto]
    exact ExtendsAll.refl base
  | b :: rest, base => by
    rw [mergeInto]
    have hstep := extendsAll_changeFirst (fun _ => extends_join b) base
    exact hstep.trans (extendsAll_mergeInto rest _)

end

/-! What merging does with the blocks that come in. -/

theorem RepresentedIn.subset {blocks tree tree' : List Block} (h : RepresentedIn blocks tree)
    (hs : ∀ r ∈ tree, r ∈ tree') : RepresentedIn blocks tree' := by
  rw [representedIn_iff] at h ⊢
  intro b hb
  obtain ⟨r, hr, hbr⟩ := h b hb
  exact ⟨r, hs r hr, hbr⟩

mutual

theorem Represents.refl : ∀ b : Block, Represents b b
  | ⟨keys, order, children⟩ => by
    rw [Represents]
    refine ⟨rfl, ?_, RepresentedIn.refl children⟩
    split
    · exact (List.drop_suffix _ keys).isInfix
    · rfl

theorem RepresentedIn.refl : ∀ bs : List Block, RepresentedIn bs bs
  | [] => trivial
  | b :: rest => by
    refine ⟨⟨b, List.mem_cons_self, Represents.refl b⟩, ?_⟩
    exact (RepresentedIn.refl rest).subset fun r hr => List.mem_cons_of_mem b hr

end

theorem ExtendsAll.exists_of_mem {as bs : List Block} (h : ExtendsAll as bs) {a : Block}
    (ha : a ∈ as) : ∃ b ∈ bs, Extends a b := by
  obtain ⟨i, hi⟩ := List.getElem?_of_mem ha
  obtain ⟨b, hb, hab⟩ := extendsAll_iff.1 h i a hi
  exact ⟨b, List.mem_of_getElem? hb, hab⟩

mutual

/-- What stands for a block still does when it is extended. -/
theorem Represents.extends : ∀ {b r r' : Block}, Represents b r → Extends r r' → Represents b r'
  | ⟨keys, order, children⟩, ⟨rkeys, rorder, rchildren⟩, r', h, he => by
    have hname := he.firstKey_eq
    rw [Represents] at h ⊢
    rw [Extends] at he
    obtain ⟨hf, hk, hc⟩ := h
    obtain ⟨-, hprefix, hsame, hchildren⟩ := he
    refine ⟨hname.trans hf, ?_, hc.extends hchildren⟩
    have hproxying := isProxying_eq_of_firstKey hf
    dsimp only at hk ⊢
    split
    · next hp =>
      rw [if_pos hp] at hk
      exact hk.trans hprefix.isInfix
    · next hp =>
      rw [if_neg hp] at hk
      rw [hsame (by rw [hproxying]; simpa using hp), hk]

theorem RepresentedIn.extends : ∀ {blocks tree tree' : List Block}, RepresentedIn blocks tree →
    ExtendsAll tree tree' → RepresentedIn blocks tree'
  | [], _, _, _, _ => trivial
  | _ :: _, _, _, ⟨⟨_, hr, hb⟩, hrest⟩, he => by
    obtain ⟨r', hr', hextends⟩ := he.exists_of_mem hr
    exact ⟨⟨r', hr', hb.extends hextends⟩, hrest.extends he⟩

end

theorem exists_represents_changeFirst {b : Block}
    (h : ∀ target, b.joins target = true → Represents b (join b target)) (tree : List Block) :
    ∃ r ∈ changeFirst b.joins (join b) b tree, Represents b r := by
  induction tree with
  | nil => exact ⟨b, List.mem_cons_self, Represents.refl b⟩
  | cons a rest ih =>
    rw [changeFirst]
    split
    · next hj => exact ⟨_, List.mem_cons_self, h a hj⟩
    · obtain ⟨r, hr, hb⟩ := ih
      exact ⟨r, List.mem_cons_of_mem a hr, hb⟩

mutual

theorem represents_join : ∀ (b : Block) {target : Block}, b.joins target = true →
    Represents b (join b target)
  | ⟨keys, order, children⟩, target, h => by
    obtain ⟨hname, hjoins⟩ := joins_iff.1 h
    have hfirst := (extends_join _ h).firstKey_eq
    rw [Represents]
    refine ⟨hfirst.trans hname, ?_, ?_⟩
    · split
      · next hp =>
        rw [keys_join_of_isProxying hp h, arguments_eq_drop]
        exact (List.suffix_append _ _).isInfix
      · next hp =>
        have hp : Block.isProxying ⟨keys, order, children⟩ = false := by simpa using hp
        rw [keys_join hp]
        rcases hjoins with ⟨hb, -⟩ | hk
        · rw [hp] at hb
          cases hb
        · exact hk
    · rw [children_join]
      exact representedIn_mergeInto children target.children

theorem representedIn_mergeInto : ∀ other base : List Block,
    RepresentedIn other (mergeInto other base)
  | [], _ => trivial
  | b :: rest, base => by
    obtain ⟨r, hr, hb⟩ := exists_represents_changeFirst (fun _ => represents_join b) base
    obtain ⟨r', hr', hextends⟩ := (extendsAll_mergeInto rest _).exists_of_mem hr
    rw [mergeInto]
    exact ⟨⟨r', hr', hb.extends hextends⟩, representedIn_mergeInto rest _⟩

end

/-- After a merge every block of the base is where it was, extended at most, and every block that was
merged in is represented. -/
theorem merge_loses_nothing (base other : List Block) :
    (∀ (i : Nat) (b : Block), base[i]? = some b → ∃ r, (merge base other)[i]? = some r ∧ Extends b r) ∧
      ∀ b ∈ other, ∃ r ∈ merge base other, Represents b r :=
  ⟨extendsAll_iff.1 (extendsAll_mergeInto other base),
    representedIn_iff.1 (representedIn_mergeInto other base)⟩

end ProxyFleet.Caddyfile
