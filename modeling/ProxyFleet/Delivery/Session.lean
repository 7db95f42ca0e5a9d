import ProxyFleet.Delivery.Registry

/-!
A registry together with the pushes that are in flight, each under a handle by which it is ended. A
handle that is taken for a new push gives up the old one, which is dropped then.
-/

namespace ProxyFleet.Delivery

inductive Action where
  | start (handle server : String) (version : Nat)
  | acknowledge (handle : String)
  | drop (handle : String)
deriving DecidableEq, Repr, Inhabited

inductive Reply where
  | started
  | inFlight
  | upToDate
  | acknowledged
  | dropped
  /-- The handle stands for no push. -/
  | noUpdate
deriving DecidableEq, Repr, Inhabited

structure Session where
  registry : Registry := {}
  live : Keyed Update := Keyed.empty
deriving DecidableEq, Repr, Inhabited

namespace Session

/-- Puts a push under a handle. -/
def hold (s : Session) (handle : String) (u : Update) : Session :=
  match s.live.get? handle with
  | some old => ⟨s.registry.drop old, s.live.put handle u⟩
  | none => ⟨s.registry, s.live.put handle u⟩

def step (s : Session) : Action → Reply × Session
  | .start handle server version =>
    match s.registry.start server version with
    | (.started u, registry) => (.started, hold ⟨registry, s.live⟩ handle u)
    | (.inFlight, registry) => (.inFlight, ⟨registry, s.live⟩)
    | (.upToDate, registry) => (.upToDate, ⟨registry, s.live⟩)
  | .acknowledge handle =>
    match s.live.get? handle with
    | some u => (.acknowledged, ⟨s.registry.acknowledge u, s.live.erase handle⟩)
    | none => (.noUpdate, s)
  | .drop handle =>
    match s.live.get? handle with
    | some u => (.dropped, ⟨s.registry.drop u, s.live.erase handle⟩)
    | none => (.noUpdate, s)

/-- The session after a list of actions. -/
def run (s : Session) (actions : List Action) : Session :=
  actions.foldl (fun s a => (s.step a).2) s

end Session

end ProxyFleet.Delivery
