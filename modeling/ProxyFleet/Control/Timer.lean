/-!
A timer that any number of parties reset and one waits for. A reset replaces the deadline, so many
resets fire once, after the last one. The wait sleeps until the deadline it has seen; a reset wakes
it, or, if it is not asleep, leaves a signal that it takes note of before it sleeps.
-/

namespace ProxyFleet.Control

structure Timer where
  deadline : Nat
  /-- There was a reset of which no wait has taken note. -/
  signalled : Bool := false
deriving DecidableEq, Repr, Inhabited

/-- A wait for the timer, and until when it sleeps once it has looked at the deadline. -/
structure Wait where
  asleepUntil : Option Nat := none
deriving DecidableEq, Repr, Inhabited

namespace Timer

/-- A timer that fires at once. -/
def new (now : Nat) : Timer := ⟨now, false⟩

def reset (_ : Timer) (now after : Nat) : Timer := ⟨now + after, true⟩

def isDue (t : Timer) (now : Nat) : Bool := t.deadline ≤ now

/-- The wait has something to look at: it has not slept yet, or its sleep is over, or there is a
signal. -/
def wakes (t : Timer) (w : Wait) (now : Nat) : Bool :=
  t.signalled || w.asleepUntil.all (· ≤ now)

/-- Whether the timer has fired for the wait, and the timer and the wait after that. -/
def poll (t : Timer) (w : Wait) (now : Nat) : Bool × Timer × Wait :=
  if t.wakes w now then
    if t.isDue now then (true, t, {})
    else (false, { t with signalled := false }, ⟨some t.deadline⟩)
  else (false, t, w)

end Timer

end ProxyFleet.Control
