import ProxyFleet.Control.Controller
import ProxyFleet.Control.Watch
import ProxyFleet.Engine.Inventory
import ProxyFleet.Engine.Trigger

/-!
The controller on a clock that stands still while anything is to be done. Engines are inventories,
and servers load what they are told unless they are made to fail or to hang. Of what is due at one
time the control loop goes first and the listeners follow in the order of their engines; who lets
time pass goes on before what is due at the end of that time.
-/

namespace ProxyFleet.Control

/-- What a listener is doing. -/
inductive Listening where
  | starting
  /-- What its stream holds for it, where the end of the stream is no event; `isOpen` until the
  stream has been broken. -/
  | subscribed (queue : List (Option Engine.Event)) (isOpen : Bool)
  | resting (wake : Nat)
deriving Inhabited

structure Simulation where
  now : Nat := 0
  intervals : Intervals := {}
  /-- Subscribe to events of certain scopes only. -/
  byScope : Bool := true
  options : Fleet.Options := {}
  base : Option Fleet.BaseFile := none
  own : Except Failure String
  engines : List Engine.Inventory
  convert : Caddyfile.Validator Json
  controller : Controller := {}
  watch : Watch
  running : Bool := false
  /-- How many rollouts there were before the control loop. -/
  earlier : Nat := 0
  listeners : List Listening := []
  /-- For each engine the filters of all subscriptions. -/
  subscriptions : List (List Engine.Filters)
  failing : List String := []
  hanging : List String := []
  /-- What servers have loaded, in order. -/
  loaded : List (String × Json) := []

namespace Simulation

/-! Rollouts. -/

def finishPush (s : Simulation) (d i : Nat) (load : Delivery.Load) : Simulation :=
  let succeeded := !s.failing.contains load.server
  { s with
    controller := { s.controller with dispatch := s.controller.dispatch.finish d i succeeded },
    loaded := if succeeded then s.loaded ++ [(load.server, load.config)] else s.loaded }

/-- Lets a push go on as far as it can. -/
def advancePush (s : Simulation) (d i : Nat) : Simulation :=
  let s := { s with
    controller := { s.controller with dispatch := s.controller.dispatch.begin d i } }
  match s.controller.dispatch.push? d i with
  | some (load, .loading) =>
    if s.hanging.contains load.server then s else s.finishPush d i load
  | _ => s

def advanceRollout (s : Simulation) (d : Nat) : Simulation :=
  let pushes := (s.controller.dispatch.rollouts[d]?.map fun x => x.pushes.length).getD 0
  (List.range pushes).foldl (fun s i => s.advancePush d i) s

def advanceAll (s : Simulation) : Simulation :=
  (List.range s.controller.dispatch.rollouts.length).foldl advanceRollout s

/-! The control loop. -/

/-- In a simulation the generator finds every site valid. -/
def validate : Caddyfile.Validator Unit := fun _ => .ok ()

def cycle (s : Simulation) : Simulation :=
  let watch := s.watch.startCycle s.intervals s.now
  let surroundings : Fleet.Surroundings :=
    ⟨s.engines.map Engine.Inventory.answers, s.own, s.base, s.now⟩
  let controller := (s.controller.cycle s.options validate s.convert surroundings).value
  advanceAll { s with controller, watch := watch.endCycle s.intervals s.now }

def cycleIfDue (s : Simulation) : Simulation :=
  if s.running && s.watch.timer.isDue s.now then s.cycle else s

/-! The listeners. -/

def setListener (s : Simulation) (i : Nat) (l : Listening) : Simulation :=
  { s with listeners := s.listeners.set i l }

def canSubscribe (s : Simulation) (i : Nat) : Bool :=
  s.engines[i]?.any fun e => !e.failing.contains "events"

def subscribe (s : Simulation) (i : Nat) : Simulation :=
  if s.canSubscribe i then
    { s.setListener i (.subscribed [] true) with
      subscriptions := s.subscriptions.modify i (· ++ [Engine.Filters.ofEvents s.byScope]) }
  else s.setListener i (.resting (s.now + s.intervals.reconnect))

/-- What a listener does after the end of its stream: it rests, if there is time to rest. -/
def rest (s : Simulation) (i : Nat) : Simulation :=
  if s.intervals.reconnect = 0 then s.subscribe i
  else s.setListener i (.resting (s.now + s.intervals.reconnect))

/-- A listener takes all that its stream holds. -/
def take (s : Simulation) (i : Nat) : List (Option Engine.Event) → Simulation
  | [] => s
  | none :: _ => s.rest i
  | some e :: more =>
    take (if e.isRelevant then { s with watch := s.watch.observe s.intervals s.now i } else s) i more

def listen (s : Simulation) (i : Nat) : Simulation :=
  match s.listeners[i]? with
  | some .starting => s.subscribe i
  | some (.resting t) => if t ≤ s.now then s.subscribe i else s
  | some (.subscribed queue isOpen) => (s.setListener i (.subscribed [] isOpen)).take i queue
  | none => s

def listenAll (s : Simulation) : Simulation :=
  (List.range s.listeners.length).foldl listen s

/-! The clock. -/

/-- Does what is due now. -/
def settle (s : Simulation) : Simulation := s.cycleIfDue.listenAll.cycleIfDue

/-- When the next thing is due. -/
def nextDue (s : Simulation) : Option Nat :=
  let rests := s.listeners.filterMap fun l => match l with
    | .resting t => some t
    | _ => none
  (rests ++ if s.running then [s.watch.timer.deadline] else []).min?

/-- Lets time pass, doing all that is due before the end. -/
def waitUntil (target now : Nat) (s : Simulation) : Simulation :=
  let s := settle { s with now }
  match s.nextDue with
  | some t => if _ : now < t ∧ t < target then waitUntil target t s else { s with now := target }
  | none => { s with now := target }
termination_by target - now

/-! What can be done to a simulation. -/

def new (s : Simulation) : Simulation :=
  { s with
    watch := Watch.new s.now s.engines.length,
    subscriptions := s.engines.map fun _ => [] }

/-- Nobody else gets a turn while no time passes. -/
def sleep (s : Simulation) (duration : Nat) : Simulation :=
  if duration = 0 then s else s.waitUntil (s.now + duration) s.now

def start (s : Simulation) : Simulation :=
  { s with
    running := true,
    earlier := s.controller.dispatch.rollouts.length,
    listeners := s.engines.map fun _ => .starting }

/-- Runs one cycle and gives its rollout a second to complete; says whether it did. -/
def update (s : Simulation) : Bool × Simulation :=
  let before := s.controller.dispatch.rollouts.length
  let s := s.cycle
  if (s.controller.dispatch.rollouts.drop before).all (·.isDone) then (true, s)
  else (false, { s with now := s.now + 1000 })

def emit (s : Simulation) (i : Nat) (e : Engine.Event) : Simulation :=
  match s.listeners[i]? with
  | some (.subscribed queue true) => s.setListener i (.subscribed (queue ++ [some e]) true)
  | _ => s

/-- Breaks the event stream of an engine. -/
def breakStream (s : Simulation) (i : Nat) : Simulation :=
  match s.listeners[i]? with
  | some (.subscribed queue true) => s.setListener i (.subscribed (queue ++ [none]) false)
  | _ => s

/-- Ends the control loop, with the rollouts that it has begun; says whether there was one. -/
def shutdown (s : Simulation) : Bool × Simulation :=
  if s.running then
    let s := s.listenAll
    (true, { s with
      running := false,
      controller := { s.controller with dispatch := s.controller.dispatch.abort s.earlier } })
  else (false, s)

def failServer (s : Simulation) (server : String) : Simulation :=
  { s with failing := server :: s.failing }

def recoverServer (s : Simulation) (server : String) : Simulation :=
  { s with failing := s.failing.filter (· ≠ server) }

def hangServer (s : Simulation) (server : String) : Simulation :=
  { s with hanging := server :: s.hanging }

/-- Loads that hang go on. -/
def releaseServer (s : Simulation) (server : String) : Simulation :=
  advanceAll { s with hanging := s.hanging.filter (· ≠ server) }

end Simulation

end ProxyFleet.Control
