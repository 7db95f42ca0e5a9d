import ProxyFleet.Proofs.Control.Bursts

/-!
A wait for the timer is over when the timer is due, neither before nor after. However often the timer
is reset, and whether a reset finds the wait asleep, about to sleep or not yet begun, what counts is
the deadline that the last reset has set.
-/

namespace ProxyFleet.Control

/-- The timer on a clock that stands still while a wait has anything to look at, with the waits that
there are for it one after the other. -/
structure Awaited where
  now : Nat
  timer : Timer
  /-- The wait that is under way. -/
  wait : Option Wait := none
  /-- When waits were over, in order. -/
  fired : List Nat := []
deriving DecidableEq, Repr, Inhabited

namespace Awaited

inductive Step where
  | tick
  | reset (after : Nat)
  | await
  /-- The wait looks at the timer. -/
  | poll
  /-- The wait is given up. -/
  | abandon
  /-- A signal is lost with a wait that is over or given up. -/
  | forget
deriving DecidableEq, Repr, Inhabited

def new (now : Nat) : Awaited := { now, timer := Timer.new now }

def mayTick (s : Awaited) : Bool := s.wait.all fun wait => !s.timer.wakes wait s.now

def poll? (s : Awaited) : Option Awaited :=
  s.wait.map fun wait =>
    let (fired, timer, wait) := s.timer.poll wait s.now
    { s with
      timer, wait := if fired then none else some wait,
      fired := if fired then s.fired ++ [s.now] else s.fired }

def step? (s : Awaited) : Step → Option Awaited
  | .tick => if s.mayTick then some { s with now := s.now + 1 } else none
  | .reset after => some { s with timer := s.timer.reset s.now after }
  | .await => if s.wait = none then some { s with wait := some {} } else none
  | .poll => s.poll?
  | .abandon => s.wait.map fun _ => { s with wait := none }
  | .forget =>
    if s.wait = none then some { s with timer := { s.timer with signalled := false } } else none

/-! Time and deadline by the steps alone. -/

/-- The time after a step, and the deadline of the last reset. -/
def pass : Nat × Nat → Step → Nat × Nat
  | (now, deadline), .tick => (now + 1, deadline)
  | (now, _), .reset after => (now, now + after)
  | (now, deadline), _ => (now, deadline)

def clockAfter (created : Nat) (steps : List Step) : Nat :=
  (steps.foldl pass (created, created)).1

/-- The deadline that the last reset has set; a timer that was never reset is due from the
beginning. -/
def deadlineAfter (created : Nat) (steps : List Step) : Nat :=
  (steps.foldl pass (created, created)).2

def DueAfter (created : Nat) (steps : List Step) : Prop :=
  deadlineAfter created steps ≤ clockAfter created steps

/-- Whenever the wait that began after `before` has looked at the timer, and whenever the clock has
gone on, the timer was not due. -/
def Undue (created : Nat) (before steps : List Step) : Prop :=
  ∀ as x bs, steps = as ++ x :: bs → x = .tick ∨ x = .poll → ¬ DueAfter created (before ++ as)

variable {created t : Nat} {s r : Awaited} {x : Step} {before steps : List Step}

theorem passed_concat (created : Nat) (steps : List Step) (x : Step) :
    (clockAfter created (steps ++ [x]), deadlineAfter created (steps ++ [x])) =
      pass (clockAfter created steps, deadlineAfter created steps) x := by
  simp [clockAfter, deadlineAfter]

theorem undue_nil (created : Nat) (before : List Step) : Undue created before [] := by
  intro as x bs h
  simp at h

theorem Undue.concat (h : Undue created before steps)
    (hx : x = .tick ∨ x = .poll → ¬ DueAfter created (before ++ steps)) :
    Undue created before (steps ++ [x]) := by
  intro as y bs hsteps hy
  rcases List.eq_nil_or_concat bs with rfl | ⟨cs, z, rfl⟩
  · obtain ⟨rfl, hxy⟩ := List.append_inj' hsteps rfl
    obtain rfl := List.head_eq_of_cons_eq hxy
    exact hx hy
  · rw [List.concat_eq_append, ← List.cons_append, ← List.append_assoc] at hsteps
    obtain ⟨rfl, -⟩ := List.append_inj' hsteps rfl
    exact h as y cs rfl hy

/-! Steps. -/

inductive Takes (s : Awaited) : Step → Awaited → Prop
  | tick (asleep : s.mayTick = true) : Takes s .tick { s with now := s.now + 1 }
  | reset (after : Nat) : Takes s (.reset after) { s with timer := s.timer.reset s.now after }
  | await (idle : s.wait = none) : Takes s .await { s with wait := some {} }
  | fire (waits : s.wait.isSome = true) (due : s.timer.deadline ≤ s.now) :
    Takes s .poll { s with wait := none, fired := s.fired ++ [s.now] }
  | sleep (waits : s.wait.isSome = true) (early : s.now < s.timer.deadline) :
    Takes s .poll { s with
      timer := { s.timer with signalled := false }, wait := some ⟨some s.timer.deadline⟩ }
  | stay (waits : s.wait.isSome = true) (asleep : s.mayTick = true) : Takes s .poll s
  | abandon (waits : s.wait.isSome = true) : Takes s .abandon { s with wait := none }
  | forget (idle : s.wait = none) :
    Takes s .forget { s with timer := { s.timer with signalled := false } }

theorem takes_of_step? (h : s.step? x = some r) : s.Takes x r := by
  cases x with
  | tick =>
    simp only [step?] at h
    split at h <;> cases h
    exact .tick ‹_›
  | reset after =>
    obtain rfl := Option.some.inj h
    exact .reset after
  | await =>
    simp only [step?] at h
    split at h <;> cases h
    exact .await ‹_›
  | poll =>
    simp only [step?, poll?, Option.map_eq_some_iff] at h
    obtain ⟨wait, hwait, h⟩ := h
    have hsome : s.wait.isSome = true := by rw [hwait, Option.isSome_some]
    unfold Timer.poll at h
    split at h
    · split at h
      · next hdue =>
        cases h
        exact .fire hsome (of_decide_eq_true hdue)
      · next hdue =>
        cases h
        exact .sleep hsome (Nat.lt_of_not_le (by simpa [Timer.isDue] using hdue))
    · next hwakes =>
      cases h
      have hasleep : s.mayTick = true := by simp [mayTick, hwait, hwakes]
      simp only [Bool.false_eq_true, if_false, ← hwait]
      exact .stay hsome hasleep
  | abandon =>
    simp only [step?, Option.map_eq_some_iff] at h
    obtain ⟨wait, hwait, rfl⟩ := h
    exact .abandon (by rw [hwait, Option.isSome_some])
  | forget =>
    simp only [step?] at h
    split at h <;> cases h
    exact .forget ‹_›

structure Sound (created : Nat) (trace : List Step) (s : Awaited) : Prop where
  now : s.now = clockAfter created trace
  deadline : s.timer.deadline = deadlineAfter created trace
  /-- Who sleeps without having been called sleeps until the timer is due. -/
  sleeps : ∀ t, s.wait = some ⟨some t⟩ → s.timer.signalled = false → t = s.timer.deadline

theorem sound_new (created : Nat) : Sound created [] (new created) :=
  ⟨rfl, rfl, fun t ht => by cases ht⟩

theorem Sound.dueAfter_iff (h : s.Sound created steps) :
    DueAfter created steps ↔ s.timer.deadline ≤ s.now := by
  rw [h.now, h.deadline]
  rfl

theorem Sound.takes (h : s.Sound created steps) (hs : s.Takes x r) :
    r.Sound created (steps ++ [x]) := by
  have hpassed := passed_concat created steps x
  rw [← h.now, ← h.deadline] at hpassed
  obtain ⟨hclock, hdeadline⟩ := Prod.mk.inj hpassed
  refine ⟨?_, ?_, ?_⟩
  · cases hs <;> exact hclock.symm
  · cases hs <;> exact hdeadline.symm
  · cases hs with
    | tick | stay => exact h.sleeps
    | reset after => intro t _ hsignalled; cases hsignalled
    | await | fire | abandon => intro t ht; cases ht
    | sleep => intro t ht _; cases ht; rfl
    | forget idle => intro t ht; rw [idle] at ht; cases ht

theorem sound_of_run (h : run? step? (new created) steps = some s) : s.Sound created steps :=
  run?_induction (P := Sound created) (sound_new created)
    (fun _ ih hs => ih.takes (takes_of_step? hs)) h

theorem Sound.asleep (h : s.Sound created steps) (waits : s.wait.isSome = true)
    (asleep : s.mayTick = true) :
    s.timer.signalled = false ∧ s.wait = some ⟨some s.timer.deadline⟩ ∧
      s.now < s.timer.deadline := by
  obtain ⟨wait, hwait⟩ := Option.isSome_iff_exists.1 waits
  have hwakes : s.timer.wakes wait s.now = false := by simpa [mayTick, hwait] using asleep
  obtain ⟨hsignalled, u, hu, hlt⟩ := Clocked.wakes_eq_false hwakes
  obtain rfl : wait = ⟨some u⟩ := congrArg Wait.mk hu
  obtain rfl := h.sleeps u hwait hsignalled
  exact ⟨hsignalled, hwait, hlt⟩

/-! From the beginning of a wait to its end. -/

/-- The wait that began at `t`, after `before`, is under way, and the clock has not gone on behind
its back. -/
structure Waiting (created t : Nat) (before steps : List Step) (s : Awaited) : Prop where
  sound : s.Sound created (before ++ steps)
  waits : s.wait.isSome = true
  began : t ≤ s.now
  undue : Undue created before steps
  intime : s.now ≤ max t s.timer.deadline

theorem Waiting.not_due (h : s.Waiting created t before steps) (early : s.now < s.timer.deadline) :
    ¬ DueAfter created (before ++ steps) := by
  rw [h.sound.dueAfter_iff]
  omega

theorem Waiting.takes (h : s.Waiting created t before steps) (hs : s.Takes x r)
    (hx : x ≠ .abandon) :
    r.Waiting created t before (steps ++ [x]) ∧ r.fired = s.fired ∨
      x = .poll ∧ r = { s with wait := none, fired := s.fired ++ [s.now] } ∧
        s.now = max t s.timer.deadline := by
  have hsound := h.sound.takes hs
  rw [List.append_assoc] at hsound
  have hintime := h.intime
  have hbegan := h.began
  cases hs with
  | tick asleep =>
    obtain ⟨-, -, hlt⟩ := h.sound.asleep h.waits asleep
    refine .inl ⟨⟨hsound, h.waits, ?_, h.undue.concat fun _ => h.not_due hlt, ?_⟩, rfl⟩
    · show t ≤ s.now + 1
      omega
    · show s.now + 1 ≤ max t s.timer.deadline
      omega
  | reset after =>
    refine .inl ⟨⟨hsound, h.waits, hbegan, h.undue.concat nofun, ?_⟩, rfl⟩
    show s.now ≤ max t (s.now + after)
    omega
  | fire waits due =>
    refine .inr ⟨rfl, rfl, ?_⟩
    omega
  | sleep waits early =>
    exact .inl ⟨⟨hsound, rfl, hbegan, h.undue.concat fun _ => h.not_due early, hintime⟩, rfl⟩
  | stay waits asleep =>
    obtain ⟨-, -, hlt⟩ := h.sound.asleep waits asleep
    exact .inl ⟨⟨hsound, waits, hbegan, h.undue.concat fun _ => h.not_due hlt, hintime⟩, rfl⟩
  | abandon => exact absurd rfl hx
  | await idle | forget idle =>
    have hwaits := h.waits
    rw [idle] at hwaits
    cases hwaits

/-- The wait that began at `t`, after `before`, was over at one of the steps, when the timer was due
for it. -/
def Over (created t : Nat) (before steps : List Step) (fired : List Nat) (s : Awaited) : Prop :=
  s.wait = none ∧ ∃ as bs, steps = as ++ .poll :: bs ∧ Undue created before as ∧
    clockAfter created (before ++ as) = max t (deadlineAfter created (before ++ as)) ∧
    s.fired = fired ++ [clockAfter created (before ++ as)]

/-- A wait that is over is not over again. -/
theorem Over.takes {fired : List Nat} (h : s.Over created t before steps fired) (hs : s.Takes x r)
    (hx : x ≠ .await) : r.Over created t before (steps ++ [x]) fired := by
  obtain ⟨hidle, as, bs, rfl, hundue, hclock, hfired⟩ := h
  have hlonger : as ++ .poll :: bs ++ [x] = as ++ .poll :: (bs ++ [x]) := by simp
  have hnobody : ¬ s.wait.isSome = true := by simp [hidle]
  cases hs with
  | tick | reset | forget => exact ⟨hidle, as, _, hlonger, hundue, hclock, hfired⟩
  | await => exact absurd rfl hx
  | fire waits | sleep waits | stay waits | abandon waits => exact absurd waits hnobody

theorem Waiting.run (h : s.Waiting created t before []) (hrun : run? step? s steps = some r)
    (hkept : ∀ x ∈ steps, x ≠ .await ∧ x ≠ .abandon) :
    r.Waiting created t before steps ∧ r.fired = s.fired ∨
      r.Over created t before steps s.fired := by
  refine run?_induction (P := fun steps r => (∀ x ∈ steps, x ≠ .await ∧ x ≠ .abandon) →
    r.Waiting created t before steps ∧ r.fired = s.fired ∨ r.Over created t before steps s.fired)
    (fun _ => .inl ⟨h, rfl⟩) ?_ hrun hkept
  intro steps q x r _ ih hs hkept
  rw [List.forall_mem_append, List.forall_mem_singleton] at hkept
  obtain ⟨hkept, hawait, habandon⟩ := hkept
  rcases ih hkept with ⟨hq, hfired⟩ | hover
  · rcases hq.takes (takes_of_step? hs) habandon with ⟨hr, hsame⟩ | ⟨rfl, rfl, hnow⟩
    · exact .inl ⟨hr, hsame.trans hfired⟩
    · rw [hq.sound.deadline, hq.sound.now] at hnow
      refine .inr ⟨rfl, steps, [], rfl, hq.undue, hnow, ?_⟩
      rw [← hfired, ← hq.sound.now]
  · exact .inr (hover.takes (takes_of_step? hs) hawait)

/-! To the end of a wait. -/

theorem step?_poll_of_due {wait : Wait} (hwait : s.wait = some wait)
    (hwakes : s.timer.wakes wait s.now = true) (due : s.timer.deadline ≤ s.now) :
    s.step? .poll = some { s with wait := none, fired := s.fired ++ [s.now] } := by
  simp [step?, poll?, hwait, Timer.poll, hwakes, Timer.isDue, due]

theorem step?_poll_of_early {wait : Wait} (hwait : s.wait = some wait)
    (hwakes : s.timer.wakes wait s.now = true) (early : s.now < s.timer.deadline) :
    s.step? .poll = some { s with
      timer := { s.timer with signalled := false }, wait := some ⟨some s.timer.deadline⟩ } := by
  simp [step?, poll?, hwait, Timer.poll, hwakes, Timer.isDue, Nat.not_le.2 early]

/-- The clock and the wait alone bring the wait to its end at this time. -/
def EndsAt (s : Awaited) (time : Nat) : Prop :=
  ∃ more r, (∀ x ∈ more, x = .tick ∨ x = .poll) ∧ run? step? s more = some r ∧
    r.fired = s.fired ++ [time]

theorem EndsAt.of_step? (hx : x = .tick ∨ x = .poll) (hs : s.step? x = some r)
    (hfired : r.fired = s.fired) (h : r.EndsAt t) : s.EndsAt t := by
  obtain ⟨more, q, hmore, hrun, hq⟩ := h
  refine ⟨x :: more, q, List.forall_mem_cons.2 ⟨hx, hmore⟩, ?_, by rw [hq, hfired]⟩
  rw [run?_cons, hs, Option.bind_some, hrun]

theorem endsAt_of_due {wait : Wait} (hwait : s.wait = some wait)
    (hwakes : s.timer.wakes wait s.now = true) (due : s.timer.deadline ≤ s.now) :
    s.EndsAt s.now := by
  have hpoll := step?_poll_of_due hwait hwakes due
  exact ⟨[.poll], _, List.forall_mem_singleton.2 (.inr rfl), (run?_singleton _).trans hpoll, rfl⟩

theorem endsAt_of_asleep (k : Nat) (hwait : s.wait = some ⟨some s.timer.deadline⟩)
    (hsignalled : s.timer.signalled = false) (hk : s.now + k = s.timer.deadline) :
    s.EndsAt s.timer.deadline := by
  induction k generalizing s with
  | zero =>
    have hnow : s.now = s.timer.deadline := hk
    have hend := endsAt_of_due hwait (by simp [Timer.wakes, hnow]) (Nat.le_of_eq hnow.symm)
    rwa [hnow] at hend
  | succ k ih =>
    have htick : s.step? .tick = some { s with now := s.now + 1 } := by
      have hlate : s.now < s.timer.deadline := by omega
      simp [step?, mayTick, hwait, Timer.wakes, hsignalled, hlate]
    refine .of_step? (.inl rfl) htick rfl (ih hwait hsignalled ?_)
    show s.now + 1 + k = s.timer.deadline
    omega

/-- If nobody resets the timer again, the wait is over at the deadline, or at once if that has
passed. -/
theorem Waiting.endsAt (h : s.Waiting created t before steps) :
    s.EndsAt (max s.now s.timer.deadline) := by
  obtain ⟨wait, hwait⟩ := Option.isSome_iff_exists.1 h.waits
  cases hwakes : s.timer.wakes wait s.now with
  | false =>
    have hasleep : s.mayTick = true := by simp [mayTick, hwait, hwakes]
    obtain ⟨hsignalled, hwait, hlt⟩ := h.sound.asleep h.waits hasleep
    rw [Nat.max_eq_right (Nat.le_of_lt hlt)]
    exact endsAt_of_asleep (s.timer.deadline - s.now) hwait hsignalled (by omega)
  | true =>
    rcases Nat.lt_or_ge s.now s.timer.deadline with hlt | hdue
    · -- The wait looks at the timer and goes to sleep.
      rw [Nat.max_eq_right (Nat.le_of_lt hlt)]
      refine .of_step? (.inr rfl) (step?_poll_of_early hwait hwakes hlt) rfl ?_
      refine endsAt_of_asleep (s.timer.deadline - s.now) rfl rfl ?_
      show s.now + (s.timer.deadline - s.now) = s.timer.deadline
      omega
    · rw [Nat.max_eq_left hdue]
      exact endsAt_of_due hwait hwakes hdue

/-- Whatever has been done before, a wait for the timer that is not given up is over once, when it
looks at the timer and the deadline of the last reset has come, which is at the deadline or, if that
has passed, when the wait begins. At no time before had the deadline come when the wait looked or
the clock went on, and as long as the wait is under way it needs nobody to come to its end. -/
theorem fires_at_latest_deadline (hbefore : run? step? (new created) before = some s)
    (hrun : run? step? s (.await :: steps) = some r)
    (hkept : ∀ x ∈ steps, x ≠ .await ∧ x ≠ .abandon) :
    (r.fired = s.fired ∧ Undue created (before ++ [.await]) steps ∧
      r.EndsAt (max r.now (deadlineAfter created (before ++ [.await] ++ steps)))) ∨
    ∃ as bs, steps = as ++ .poll :: bs ∧ Undue created (before ++ [.await]) as ∧
      clockAfter created (before ++ [.await] ++ as) =
        max s.now (deadlineAfter created (before ++ [.await] ++ as)) ∧
      r.fired = s.fired ++ [clockAfter created (before ++ [.await] ++ as)] := by
  rw [run?_cons, Option.bind_eq_some_iff] at hrun
  obtain ⟨q, hawait, hrun⟩ := hrun
  have hq : q.Waiting created s.now (before ++ [.await]) [] ∧ q.fired = s.fired := by
    have hsound := sound_of_run (run?_concat.2 ⟨s, hbefore, hawait⟩)
    cases takes_of_step? hawait with
    | await idle =>
      refine ⟨⟨?_, rfl, Nat.le_refl _, undue_nil _ _, Nat.le_max_left _ _⟩, rfl⟩
      rwa [List.append_nil]
  obtain ⟨hq, hfired⟩ := hq
  rcases hq.run hrun hkept with ⟨hr, hsame⟩ | ⟨-, as, bs, hsteps, hundue, hclock, hr⟩
  · left
    rw [← hr.sound.deadline]
    exact ⟨hsame.trans hfired, hr.undue, hr.endsAt⟩
  · right
    rw [hfired] at hr
    exact ⟨as, bs, hsteps, hundue, hclock, hr⟩

def given : List Step :=
  [.reset 5, .await, .poll, .reset 9, .abandon, .forget, .tick]

def resets : List Step :=
  [.poll, .tick, .reset 3, .reset 1, .reset 2, .poll, .tick, .tick, .reset 2, .poll, .tick, .tick,
    .poll, .reset 1, .tick, .tick]

theorem fires_at_latest_deadline_resets :
    run? step? (new 0) given = some ⟨1, ⟨9, false⟩, none, []⟩ ∧
      run? step? ⟨1, ⟨9, false⟩, none, []⟩ (.await :: resets) =
        some ⟨8, ⟨7, true⟩, none, [6]⟩ ∧
      (∀ x ∈ resets, x ≠ .await ∧ x ≠ .abandon) ∧
      ∃ as bs, resets = as ++ .poll :: bs ∧ Undue 0 (given ++ [.await]) as ∧
        clockAfter 0 (given ++ [.await] ++ as) =
          max 1 (deadlineAfter 0 (given ++ [.await] ++ as)) ∧
        [6] = [] ++ [clockAfter 0 (given ++ [.await] ++ as)] := by
  have hgiven : run? step? (new 0) given = some ⟨1, ⟨9, false⟩, none, []⟩ := by decide
  have hresets : run? step? ⟨1, ⟨9, false⟩, none, []⟩ (.await :: resets) =
      some ⟨8, ⟨7, true⟩, none, [6]⟩ := by decide
  have hkept : ∀ x ∈ resets, x ≠ .await ∧ x ≠ .abandon := by decide
  refine ⟨hgiven, hresets, hkept, ?_⟩
  rcases fires_at_latest_deadline hgiven hresets hkept with ⟨hfired, -⟩ | hover
  · cases hfired
  · exact hover

end Awaited

end ProxyFleet.Control
