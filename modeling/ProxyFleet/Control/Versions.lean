import ProxyFleet.Caddyfile.Prune
import ProxyFleet.Delivery.Dispatch

/-!
Versions of the configuration. Only a Caddyfile that differs from the one before is converted, and
only a conversion that succeeds makes a new version. After one that fails nothing is delivered; the
same Caddyfile is not tried again, and what is delivered then is the last version.
-/

namespace ProxyFleet.Control

structure Versions where
  /-- The Caddyfile of the last cycle. -/
  last : Option String := none
  /-- The converted form of the version. -/
  config : Option Json := none
  number : Nat := 0
deriving Inhabited

inductive Change where
  | same
  | rejected (failure : Failure)
  | accepted
deriving DecidableEq, Repr, Inhabited

namespace Versions

/-- Notes the Caddyfile of a cycle and says whether it differs from the one of the cycle before. -/
def note (v : Versions) (caddyfile : String) : Bool × Versions :=
  (v.last ≠ some caddyfile, { v with last := some caddyfile })

/-- Takes what the conversion of a Caddyfile has come to. -/
def conclude (v : Versions) : Except Failure Json → Change × Versions
  | .ok config => (.accepted, { v with config := some config, number := v.number + 1 })
  | .error failure => (.rejected failure, v)

/-- What is delivered at the end of a cycle. -/
def rollout? (v : Versions) (change : Change) (servers : List String) :
    Option Delivery.Rollout :=
  match change, v.config with
  | .rejected _, _ => none
  | _, none => none
  | _, some config => some (Delivery.Rollout.new v.number config servers)

end Versions

end ProxyFleet.Control
