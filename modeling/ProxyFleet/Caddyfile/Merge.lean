import ProxyFleet.Caddyfile.Block
import ProxyFleet.FirstMatch

/-!
Merging the blocks of one workload into a tree. A block joins the first sibling with its directive
name that has the same keys; a proxying directive joins the first one for the same requests, and
then its targets are listed after the ones already there. Otherwise it becomes a new sibling.
-/

namespace ProxyFleet

/-- A request matcher: everything, a path or a named one. -/
def isMatcher (key : String) : Bool :=
  key = "*" || key.startsWith "/" || key.startsWith "@"

namespace Block

/-- A directive whose arguments are the addresses that requests are passed on to. -/
def isProxying (b : Block) : Bool :=
  b.firstKey = "reverse_proxy" || b.firstKey = "php_fastcgi"

/-- The requests a directive applies to: its first argument if that is a matcher, else all. -/
def matcher (b : Block) : String :=
  match b.keys with
  | _ :: key :: _ => if isMatcher key then key else "*"
  | _ => "*"

/-- The arguments of a directive without a leading matcher. -/
def arguments (b : Block) : List String :=
  match b.keys with
  | _ :: key :: rest => if isMatcher key then rest else key :: rest
  | _ => []

/-- `b` joins `target` rather than standing beside it. -/
def joins (b target : Block) : Bool :=
  target.firstKey = b.firstKey &&
    ((b.isProxying && target.matcher = b.matcher) || target.keys = b.keys)

end Block

namespace Caddyfile

mutual

/-- `target` after `b` has joined it. -/
def join : Block → Block → Block
  | ⟨keys, order, children⟩, target =>
    let b : Block := ⟨keys, order, children⟩
    let more := if b.isProxying && target.matcher = b.matcher then b.arguments else []
    ⟨target.keys ++ more, target.order, mergeInto children target.children⟩

/-- The tree `base` after the blocks have been merged into it one after the other. -/
def mergeInto : List Block → List Block → List Block
  | [], base => base
  | b :: rest, base => mergeInto rest (changeFirst b.joins (join b) b base)

end

/-- Merges the blocks of `other` into `base`. -/
def merge (base other : List Block) : List Block := mergeInto other base

end Caddyfile

end ProxyFleet
