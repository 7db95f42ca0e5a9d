import ProxyFleet.Admin.Page
import ProxyFleet.Control.Loop

/-!
What the control loop keeps, and what a cycle does to it: the Caddyfile is generated and, if it has
changed, saved and converted; then a rollout is started.
-/

namespace ProxyFleet.Control

structure Controller where
  memory : Fleet.Memory := {}
  versions : Versions := {}
  dispatch : Delivery.Dispatch := {}
  /-- Cycles that have been completed. -/
  cycles : Nat := 0
  /-- What the last cycle knew about the networks of servers. -/
  subnets : List Net.Subnet := []
  /-- The last Caddyfile that was new when it was generated. -/
  saved : Option String := none
deriving Inhabited

namespace Controller

/-- The controller is ready once its first cycle is done. -/
def isReady (c : Controller) : Bool := c.cycles ≠ 0

/-- Goes on with what a cycle has generated. -/
def accept (c : Controller) (convert : Caddyfile.Validator Json) (g : Fleet.Generated) :
    Controller :=
  let loop := Loop.finishCycle ⟨c.versions, c.dispatch, none⟩ convert g
  { c with
    versions := loop.versions,
    dispatch := loop.dispatch,
    cycles := c.cycles + 1,
    saved := if (c.versions.note g.caddyfile).1 then some g.caddyfile else c.saved }

/-- A cycle over what the engines answer now. -/
def cycle {α : Type} (c : Controller) (o : Fleet.Options) (validate : Caddyfile.Validator α)
    (convert : Caddyfile.Validator Json) (s : Fleet.Surroundings) : Fleet.Journaled Controller := do
  let (generated, memory) ← Fleet.cycle o validate s c.memory
  pure { c.accept convert generated with memory, subnets := memory.controllerSubnets }

/-- Every accepted change is a version. -/
def metrics (c : Controller) : Admin.Metrics :=
  ⟨c.cycles, c.versions.number, c.versions.number, c.dispatch.tally⟩

def status (c : Controller) : Admin.Status := ⟨c.isReady, c.subnets, c.metrics⟩

end Controller

end ProxyFleet.Control
