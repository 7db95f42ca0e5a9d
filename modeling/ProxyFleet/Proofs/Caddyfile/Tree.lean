import ProxyFleet.Proofs.Caddyfile.Order

/-!
The blocks of a tree at every depth. Sorting a tree moves blocks around but leaves the words of each
and the number of its children alone. The reader numbers siblings as it meets them; what it has
numbered is sorted already, unless there are more siblings than there are places.
-/

namespace ProxyFleet.Caddyfile

mutual

def blocksWithin : Block → List Block
  | ⟨keys, order, children⟩ => ⟨keys, order, children⟩ :: blocksIn children

def blocksIn : List Block → List Block
  | [] => []
  | b :: rest => blocksWithin b ++ blocksIn rest

end

theorem blocksIn_eq_flatMap (bs : List Block) : blocksIn bs = bs.flatMap blocksWithin := by
  induction bs with
  | nil => rw [blocksIn, List.flatMap_nil]
  | cons b rest ih => rw [blocksIn, List.flatMap_cons, ih]

theorem forall_blocksIn_cons {P : Block → Prop} {b : Block} {rest : List Block} :
    (∀ x ∈ blocksIn (b :: rest), P x) ↔
      (∀ x ∈ blocksIn [b], P x) ∧ ∀ x ∈ blocksIn rest, P x := by
  simp only [blocksIn, List.append_nil, List.forall_mem_append]

theorem forall_blocksIn_singleton {P : Block → Prop} {keys : List String} {order : Int}
    {children : List Block} :
    (∀ x ∈ blocksIn [⟨keys, order, children⟩], P x) ↔
      P ⟨keys, order, children⟩ ∧ ∀ x ∈ blocksIn children, P x := by
  simp only [blocksIn, blocksWithin, List.append_nil, List.forall_mem_cons]

theorem mem_blocksIn {bs : List Block} {b : Block} (h : b ∈ bs) : b ∈ blocksIn bs := by
  rw [blocksIn_eq_flatMap, List.mem_flatMap]
  exact ⟨b, h, by cases b; simp [blocksWithin]⟩

/-- What sorting leaves of a block: its words and the number of its children. -/
def shape (b : Block) : List String × Nat := (b.keys, b.children.length)

def shapes (bs : List Block) : List (List String × Nat) := (blocksIn bs).map shape

theorem shapes_cons (b : Block) (rest : List Block) :
    shapes (b :: rest) = shape b :: (shapes b.children ++ shapes rest) := by
  obtain ⟨keys, order, children⟩ := b
  simp [shapes, blocksIn, blocksWithin]

theorem shapes_perm {as bs : List Block} (h : as.Perm bs) : (shapes as).Perm (shapes bs) := by
  unfold shapes
  rw [blocksIn_eq_flatMap, blocksIn_eq_flatMap]
  exact (h.flatMap_right _).map _

theorem sortEach_eq_map (bs : List Block) : sortEach bs = bs.map sortWithin := by
  induction bs with
  | nil => rfl
  | cons b rest ih => rw [sortEach, List.map_cons, ih]

theorem length_sortEach (bs : List Block) : (sortEach bs).length = bs.length := by
  rw [sortEach_eq_map, List.length_map]

theorem mem_sort {bs : List Block} {x : Block} : x ∈ sort bs ↔ ∃ b ∈ bs, sortWithin b = x := by
  unfold sort
  rw [(sortLevel_perm _).mem_iff, sortEach_eq_map, List.mem_map]

theorem length_sort (bs : List Block) : (sort bs).length = bs.length := by
  unfold sort
  rw [(sortLevel_perm _).length_eq, length_sortEach]

theorem isGlobal_sortWithin (b : Block) : (sortWithin b).isGlobal = b.isGlobal := by
  cases b
  rfl

theorem order_sortWithin (b : Block) : (sortWithin b).order = b.order := by
  cases b
  rfl

mutual

theorem shapes_sortWithin : ∀ b : Block, (shapes [sortWithin b]).Perm (shapes [b])
  | ⟨keys, order, children⟩ => by
    have hs := (shapes_perm (sortLevel_perm (sortEach children))).trans (shapes_sortEach children)
    have hl : (sortLevel (sortEach children)).length = children.length := length_sort children
    rw [sortWithin, shapes_cons, shapes_cons, shape, shape]
    dsimp only
    rw [hl]
    exact (hs.append_right _).cons _

theorem shapes_sortEach : ∀ bs : List Block, (shapes (sortEach bs)).Perm (shapes bs)
  | [] => by rw [sortEach]
  | b :: rest => by
    have happ : ∀ (a : Block) (as : List Block), shapes (a :: as) = shapes [a] ++ shapes as := by
      intro a as
      simp [shapes, blocksIn]
    rw [sortEach, happ, happ b rest]
    exact (shapes_sortWithin b).append (shapes_sortEach rest)

end

theorem shapes_sort (bs : List Block) : (shapes (sort bs)).Perm (shapes bs) :=
  (shapes_perm (sortLevel_perm _)).trans (shapes_sortEach bs)

/-- What is known of every block by its shape is known after sorting. -/
theorem forall_blocksIn_sort {P : Block → Prop} (hP : ∀ a b, shape a = shape b → P a → P b)
    (bs : List Block) : (∀ b ∈ blocksIn (sort bs), P b) ↔ ∀ b ∈ blocksIn bs, P b := by
  have h : ∀ {as cs : List Block}, (shapes as).Perm (shapes cs) →
      (∀ b ∈ blocksIn as, P b) → ∀ b ∈ blocksIn cs, P b := by
    intro as cs hp has b hb
    obtain ⟨a, ha, he⟩ := List.mem_map.1 (hp.symm.subset (List.mem_map_of_mem hb))
    exact hP a b he (has a ha)
  exact ⟨h (shapes_sort bs), h (shapes_sort bs).symm⟩

mutual

/-- The block at `order`, with the blocks below it placed among their siblings by `place`. -/
def placed (place : Nat → Int) (order : Int) : Block → Block
  | ⟨keys, _, children⟩ => ⟨keys, order, placedFrom place 0 children⟩

/-- Siblings placed by `place`, the first of them as the one with `n` before it. -/
def placedFrom (place : Nat → Int) (n : Nat) : List Block → List Block
  | [] => []
  | b :: rest => placed place (place n) b :: placedFrom place (n + 1) rest

end

/-- The tree with every block's order replaced by its index among its siblings. -/
def indexed (bs : List Block) : List Block := placedFrom (fun n => (n : Int)) 0 bs

def numbered (bs : List Block) : List Block := placedFrom orderAt 0 bs

end ProxyFleet.Caddyfile
