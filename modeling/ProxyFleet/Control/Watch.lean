import ProxyFleet.Control.Timer

/-!
How events call for cycles. Each engine has a listener with a flag; a listener that sees an event
that matters and finds its flag clear sets it and arms the timer for soon. The control loop begins a
cycle by arming the timer for the next one and clearing all flags. These are done in steps, between
which the other parties may do theirs.
-/

namespace ProxyFleet.Control

structure Intervals where
  /-- From a cycle to the next one if nothing happens. -/
  polling : Nat := 30000
  /-- From an event to a cycle. -/
  throttle : Nat := 100
  /-- From the end of an event stream to a new subscription. -/
  reconnect : Nat := 30000
deriving DecidableEq, Repr, Inhabited

/-- Where a listener is in handling an event. -/
inductive Handling where
  | idle
  /-- It has found its flag clear. -/
  | passed
  /-- It has set its flag. -/
  | marked
deriving DecidableEq, Repr, Inhabited

/-- Where the control loop is. -/
inductive Phase where
  | waiting
  /-- It has armed the timer and cleared the flags before this one. -/
  | clearing (next : Nat)
  | generating
deriving DecidableEq, Repr, Inhabited

/-- Who armed the timer last. -/
inductive Armed where
  | loop
  | listener
deriving DecidableEq, Repr, Inhabited

structure Watch where
  timer : Timer
  armed : Armed := .loop
  flags : List Bool
  handling : List Handling
  phase : Phase := .waiting
deriving DecidableEq, Repr, Inhabited

inductive Step where
  /-- A listener looks at its flag for an event that matters. -/
  | look (listener : Nat)
  | mark (listener : Nat)
  | arm (listener : Nat)
  /-- The control loop starts a cycle. -/
  | rearm
  | clear
  | generate
  | finish
deriving DecidableEq, Repr, Inhabited

namespace Watch

def new (now engines : Nat) : Watch :=
  ⟨Timer.new now, .loop, List.replicate engines false, List.replicate engines .idle, .waiting⟩

def look? (w : Watch) (i : Nat) : Option Watch :=
  match w.handling[i]?, w.flags[i]? with
  | some .idle, some true => some w
  | some .idle, some false => some { w with handling := w.handling.set i .passed }
  | _, _ => none

def mark? (w : Watch) (i : Nat) : Option Watch :=
  match w.handling[i]? with
  | some .passed =>
    some { w with flags := w.flags.set i true, handling := w.handling.set i .marked }
  | _ => none

def arm? (c : Intervals) (now : Nat) (w : Watch) (i : Nat) : Option Watch :=
  match w.handling[i]? with
  | some .marked =>
    some { w with
      timer := w.timer.reset now c.throttle, armed := .listener,
      handling := w.handling.set i .idle }
  | _ => none

def rearm? (c : Intervals) (now : Nat) (w : Watch) : Option Watch :=
  match w.phase with
  | .waiting =>
    some { w with
      timer := w.timer.reset now c.polling, armed := .loop, phase := .clearing 0 }
  | _ => none

def clear? (w : Watch) : Option Watch :=
  match w.phase with
  | .clearing i =>
    if i < w.flags.length then
      some { w with flags := w.flags.set i false, phase := .clearing (i + 1) }
    else none
  | _ => none

def generate? (w : Watch) : Option Watch :=
  match w.phase with
  | .clearing i => if i < w.flags.length then none else some { w with phase := .generating }
  | _ => none

def finish? (w : Watch) : Option Watch :=
  match w.phase with
  | .generating => some { w with phase := .waiting }
  | _ => none

/-- One step at one time, if it can be taken. -/
def step? (c : Intervals) (now : Nat) (w : Watch) : Step → Option Watch
  | .look i => w.look? i
  | .mark i => w.mark? i
  | .arm i => w.arm? c now i
  | .rearm => w.rearm? c now
  | .clear => w.clear?
  | .generate => w.generate?
  | .finish => w.finish?

/-- Takes those of the steps that can be taken. -/
def steps (c : Intervals) (now : Nat) (w : Watch) (ss : List Step) : Watch :=
  ss.foldl (fun w s => (w.step? c now s).getD w) w

/-- A listener handles an event that matters without being interrupted. -/
def observe (c : Intervals) (now : Nat) (w : Watch) (i : Nat) : Watch :=
  w.steps c now [.look i, .mark i, .arm i]

/-- The control loop goes from waiting to generating without being interrupted. -/
def startCycle (c : Intervals) (now : Nat) (w : Watch) : Watch :=
  w.steps c now ([.rearm] ++ List.replicate w.flags.length .clear ++ [.generate])

def endCycle (c : Intervals) (now : Nat) (w : Watch) : Watch := w.steps c now [.finish]

end Watch

end ProxyFleet.Control
