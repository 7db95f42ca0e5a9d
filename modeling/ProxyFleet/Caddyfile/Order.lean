import ProxyFleet.Caddyfile.Block

/-!
The canonical order of siblings: global options first, then by the place asked for, the keys, the
children. Sorting a tree sorts the children of every block before the block is compared.
-/

namespace ProxyFleet

namespace Block

mutual

def compare : Block → Block → Ordering
  | ⟨ka, oa, ca⟩, ⟨kb, ob, cb⟩ =>
    (Ord.compare kb.isEmpty ka.isEmpty).then
      ((Ord.compare oa ob).then ((Ord.compare ka kb).then (compareChildren ca cb)))

/-- Lists of siblings are compared pair by pair; a shorter one comes before its extensions. -/
def compareChildren : List Block → List Block → Ordering
  | [], [] => .eq
  | [], _ :: _ => .lt
  | _ :: _, [] => .gt
  | a :: as, b :: bs => (compare a b).then (compareChildren as bs)

end

end Block

namespace Caddyfile

/-- Puts siblings into the canonical order; equal ones keep theirs. -/
def sortLevel (blocks : List Block) : List Block :=
  blocks.mergeSort fun a b => (a.compare b).isLE

mutual

/-- The block with its children sorted at every depth. -/
def sortWithin : Block → Block
  | ⟨keys, order, children⟩ => ⟨keys, order, sortLevel (sortEach children)⟩

def sortEach : List Block → List Block
  | [] => []
  | b :: rest => sortWithin b :: sortEach rest

end

/-- Sorts a tree at every depth. -/
def sort (blocks : List Block) : List Block := sortLevel (sortEach blocks)

end Caddyfile

end ProxyFleet
