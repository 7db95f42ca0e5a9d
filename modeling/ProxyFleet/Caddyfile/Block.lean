/-!
The tree of a Caddyfile. A block is a site, a directive or a sub-directive: the words on its line,
its place among its siblings and the blocks between its braces.
-/

namespace ProxyFleet

structure Block where
  /-- The directive or site name and its arguments. -/
  keys : List String
  /-- The place among siblings that was asked for. -/
  order : Int
  children : List Block
deriving Inhabited, Repr

/-- The order of a block for which no place was asked; it comes after all others. -/
def naturalOrder : Int := 2147483647

/-- The order of the block with this many siblings before it. -/
def orderAt (index : Nat) : Int := min (index : Int) naturalOrder

namespace Block

mutual

def decEq : (a b : Block) → Decidable (a = b)
  | ⟨ka, oa, ca⟩, ⟨kb, ob, cb⟩ =>
    match decEqChildren ca cb with
    | .isTrue hc =>
      if h : ka = kb ∧ oa = ob then .isTrue (by rw [h.1, h.2, hc])
      else .isFalse fun e => h (by injection e with e1 e2; exact ⟨e1, e2⟩)
    | .isFalse hc => .isFalse fun e => hc (by injection e)

def decEqChildren : (as bs : List Block) → Decidable (as = bs)
  | [], [] => .isTrue rfl
  | [], _ :: _ => .isFalse (by simp)
  | _ :: _, [] => .isFalse (by simp)
  | a :: as, b :: bs =>
    match decEq a b, decEqChildren as bs with
    | .isTrue h, .isTrue hs => .isTrue (by rw [h, hs])
    | .isFalse h, _ => .isFalse fun e => h (by injection e)
    | _, .isFalse hs => .isFalse fun e => hs (by injection e)

end

instance : DecidableEq Block := decEq

def ofKeys (keys : List String) : Block := ⟨keys, naturalOrder, []⟩

/-- The directive name, empty for a block without keys. -/
def firstKey (b : Block) : String := b.keys.headD ""

/-- A block of global options has no keys. -/
def isGlobal (b : Block) : Bool := b.keys.isEmpty

/-- A snippet is a block named `(name)` that other blocks import. -/
def isSnippet (b : Block) : Bool :=
  match b.keys with
  | [key] => key.startsWith "(" && key.endsWith ")"
  | _ => false

def addKeys (b : Block) (keys : List String) : Block := { b with keys := b.keys ++ keys }

def addChild (b child : Block) : Block := { b with children := b.children ++ [child] }

end Block

end ProxyFleet
