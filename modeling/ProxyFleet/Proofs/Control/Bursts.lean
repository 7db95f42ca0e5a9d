import Mathlib.Data.List.Nodup
import Mathlib.Data.List.Perm.Subperm
import ProxyFleet.Control.Watch
import ProxyFleet.Engine.Trigger
import ProxyFleet.Proofs.Runs

/-!
Bursts of events do not keep the control loop from its cycles. A listener that has armed the timer
skips what it sees until the next cycle begins, so between two cycles each listener arms the timer
once at most, and every time for soon.
-/

namespace ProxyFleet.Control

namespace Watch

variable {c : Intervals} {now i : Nat} {w v : Watch} {s : Step}

theorem steps_append (ss ss' : List Step) :
    w.steps c now (ss ++ ss') = (w.steps c now ss).steps c now ss' := List.foldl_append

theorem steps_cons_of_step? (h : w.step? c now s = some v) (ss : List Step) :
    w.steps c now (s :: ss) = v.steps c now ss := by
  rw [steps, List.foldl_cons, h, Option.getD_some, steps]

theorem steps_singleton : w.steps c now [s] = (w.step? c now s).getD w := rfl

/-- A listener that sees an event that matters goes as far as to arm the timer. -/
def rearms (c : Intervals) (now : Nat) (w : Watch) (i : Nat) : Bool :=
  ((w.steps c now [.look i, .mark i]).step? c now (.arm i)).isSome

theorem observe_eq : w.observe c now i = (w.steps c now [.look i, .mark i]).steps c now [.arm i] :=
  steps_append [.look i, .mark i] [.arm i]

/-- A listener with a clear flag sets it and arms the timer. -/
theorem observe_of_clear (c : Intervals) (now : Nat) (idle : w.handling[i]? = some .idle)
    (clear : w.flags[i]? = some false) :
    w.rearms c now i = true ∧ w.observe c now i = { w with
      timer := w.timer.reset now c.throttle, armed := .listener, flags := w.flags.set i true } := by
  obtain ⟨hi, hidle⟩ := List.getElem?_eq_some_iff.1 idle
  have hlook : w.step? c now (.look i) = some { w with handling := w.handling.set i .passed } := by
    simp only [step?, look?, idle, clear]
  have hmark : step? c now { w with handling := w.handling.set i .passed } (.mark i) =
      some { w with flags := w.flags.set i true, handling := w.handling.set i .marked } := by
    simp only [step?, mark?, List.getElem?_set_self hi, List.set_set]
  have harm : step? c now
      { w with flags := w.flags.set i true, handling := w.handling.set i .marked } (.arm i) =
      some { w with
        timer := w.timer.reset now c.throttle, armed := .listener,
        flags := w.flags.set i true } := by
    have hback : w.handling.set i .idle = w.handling := by rw [← hidle, List.set_getElem_self]
    simp only [step?, arm?, List.getElem?_set_self hi, List.set_set, hback]
  constructor
  · rw [rearms, steps_cons_of_step? hlook, steps_cons_of_step? hmark, steps, List.foldl_nil, harm,
      Option.isSome_some]
  · rw [observe, steps_cons_of_step? hlook, steps_cons_of_step? hmark, steps_cons_of_step? harm,
      steps, List.foldl_nil]

/-- A listener with a set flag does nothing, nor does one that there is not. -/
theorem observe_of_not_clear (c : Intervals) (now : Nat)
    (idle : ∀ h ∈ w.handling[i]?, h = .idle) (set : w.flags[i]? ≠ some false) :
    w.rearms c now i = false ∧ w.observe c now i = w := by
  have hlook : (w.step? c now (.look i)).getD w = w := by
    simp only [step?, look?]
    split
    · rfl
    · contradiction
    · rfl
  have hmark : w.step? c now (.mark i) = none := by
    simp only [step?, mark?]
    split
    · cases idle _ ‹_›
    · rfl
  have harm : w.step? c now (.arm i) = none := by
    simp only [step?, arm?]
    split
    · cases idle _ ‹_›
    · rfl
  have hstays : w.steps c now [.look i, .mark i] = w := by
    rw [steps, List.foldl_cons, List.foldl_cons, List.foldl_nil, hlook, hmark, Option.getD_none]
  constructor
  · rw [rearms, hstays, harm, Option.isSome_none]
  · rw [observe_eq, hstays, steps_singleton, harm, Option.getD_none]

/-- All flags from one on are cleared one after the other. -/
theorem steps_clear (c : Intervals) (now k : Nat) (hphase : w.phase = .clearing i)
    (hk : i + k = w.flags.length) :
    w.steps c now (List.replicate k .clear) =
      { w with flags := w.flags.take i ++ List.replicate k false, phase := .clearing (i + k) } := by
  induction k generalizing w i with
  | zero =>
    obtain rfl : i = w.flags.length := hk
    simp [steps, ← hphase]
  | succ k ih =>
    have hi : i < w.flags.length := by omega
    have hstep : w.step? c now .clear =
        some { w with flags := w.flags.set i false, phase := .clearing (i + 1) } := by
      simp only [step?, clear?, hphase, hi, if_true]
    have hrest := ih (w := { w with flags := w.flags.set i false, phase := .clearing (i + 1) })
      (i := i + 1) rfl (by rw [List.length_set]; omega)
    have htake : (w.flags.set i false).take (i + 1) = w.flags.take i ++ [false] := by
      rw [List.take_succ_eq_append_getElem (by rwa [List.length_set]),
        List.take_set_of_le (Nat.le_refl i), List.getElem_set_self]
    rw [List.replicate_succ, steps_cons_of_step? hstep, hrest, htake, List.append_assoc,
      List.singleton_append, ← List.replicate_succ, Nat.add_assoc, Nat.add_comm 1 k]

theorem startCycle_eq (waiting : w.phase = .waiting) :
    w.startCycle c now = { w with
      timer := w.timer.reset now c.polling, armed := .loop,
      flags := List.replicate w.flags.length false, phase := .generating } := by
  have hrearm : w.step? c now .rearm = some { w with
      timer := w.timer.reset now c.polling, armed := .loop, phase := .clearing 0 } := by
    simp only [step?, rearm?, waiting]
  have hclear := steps_clear c now w.flags.length
    (w := { w with timer := w.timer.reset now c.polling, armed := .loop, phase := .clearing 0 })
    (i := 0) rfl (Nat.zero_add _)
  rw [startCycle, List.append_assoc, List.singleton_append, steps_cons_of_step? hrearm,
    steps_append, hclear, steps_singleton]
  simp [step?, generate?]

theorem endCycle_eq (generating : w.phase = .generating) :
    w.endCycle c now = { w with phase := .waiting } := by
  simp only [endCycle, steps_singleton, step?, finish?, generating, Option.getD_some]

end Watch

/-- The watch on a clock that stands still while the control loop has anything to do. -/
structure Clocked where
  now : Nat
  watch : Watch
  /-- The control loop's wait for the timer; none from when the timer has fired to the end of the
  cycle. -/
  wait : Option Wait := some {}
  /-- Who has armed the timer since the last cycle began, in order. -/
  armings : List Nat := []
deriving DecidableEq, Repr, Inhabited

namespace Clocked

inductive Step where
  | tick
  /-- A listener sees an event. -/
  | see (listener : Nat) (event : Engine.Event)
  /-- The control loop looks at the timer. -/
  | poll
  /-- It waits anew, after a rollout has completed. -/
  | rewait
  /-- It begins a cycle, as the timer has fired. -/
  | start
  | finish
deriving DecidableEq, Repr, Inhabited

variable (c : Intervals)

def new (now engines : Nat) : Clocked := { now, watch := Watch.new now engines }

def mayTick (s : Clocked) : Bool :=
  match s.wait with
  | some wait => !s.watch.timer.wakes wait s.now
  | none => s.watch.phase = .generating

def see (s : Clocked) (i : Nat) (e : Engine.Event) : Clocked :=
  if e.isRelevant then
    { s with
      watch := s.watch.observe c s.now i,
      armings := if s.watch.rearms c s.now i then s.armings ++ [i] else s.armings }
  else s

def poll? (s : Clocked) : Option Clocked :=
  s.wait.map fun wait =>
    let (fired, timer, wait) := s.watch.timer.poll wait s.now
    { s with watch := { s.watch with timer }, wait := if fired then none else some wait }

def start? (s : Clocked) : Option Clocked :=
  if s.wait = none ∧ s.watch.phase = .waiting then
    some { s with watch := s.watch.startCycle c s.now, armings := [] }
  else none

def finish? (s : Clocked) : Option Clocked :=
  if s.watch.phase = .generating then
    some { s with watch := s.watch.endCycle c s.now, wait := some {} }
  else none

def step? (s : Clocked) : Step → Option Clocked
  | .tick => if s.mayTick then some { s with now := s.now + 1 } else none
  | .see i e => some (s.see c i e)
  | .poll => s.poll?
  | .rewait => s.wait.map fun _ => { s with wait := some {} }
  | .start => s.start? c
  | .finish => s.finish? c

structure Orderly (n : Nat) (s : Clocked) : Prop where
  flags : s.watch.flags.length = n
  handling : s.watch.handling = List.replicate n .idle
  armed : ∀ i : Nat, i ∈ s.armings ↔ s.watch.flags[i]? = some true
  once : s.armings.Nodup
  waits : s.wait.isSome = true → s.watch.phase = .waiting
  phase : s.watch.phase = .waiting ∨ s.watch.phase = .generating
  /-- Who sleeps without having been called sleeps until the timer is due. -/
  sleeps : ∀ t, s.wait = some ⟨some t⟩ → s.watch.timer.signalled = false →
    t = s.watch.timer.deadline
  soon : s.armings ≠ [] → s.watch.timer.deadline ≤ s.now + c.throttle

inductive Takes (s : Clocked) : Step → Clocked → Prop
  | tick (asleep : s.mayTick = true) : Takes s .tick { s with now := s.now + 1 }
  | overlook {i : Nat} {e : Engine.Event} : Takes s (.see i e) s
  | arm {i : Nat} {e : Engine.Event} (clear : s.watch.flags[i]? = some false) :
    Takes s (.see i e) { s with
      watch := { s.watch with
        timer := s.watch.timer.reset s.now c.throttle, armed := .listener,
        flags := s.watch.flags.set i true },
      armings := s.armings ++ [i] }
  | fire (waits : s.wait.isSome = true) (due : s.watch.timer.deadline ≤ s.now) :
    Takes s .poll { s with wait := none }
  | sleep (waits : s.wait.isSome = true) (early : s.now < s.watch.timer.deadline) :
    Takes s .poll { s with
      watch := { s.watch with timer := { s.watch.timer with signalled := false } },
      wait := some ⟨some s.watch.timer.deadline⟩ }
  | stay : Takes s .poll s
  | rewait (waits : s.wait.isSome = true) : Takes s .rewait { s with wait := some {} }
  | start (fired : s.wait = none) (waiting : s.watch.phase = .waiting) : Takes s .start { s with
      watch := { s.watch with
        timer := s.watch.timer.reset s.now c.polling, armed := .loop,
        flags := List.replicate s.watch.flags.length false, phase := .generating },
      armings := [] }
  | finish (generating : s.watch.phase = .generating) : Takes s .finish { s with
      watch := { s.watch with phase := .waiting }, wait := some {} }

variable {c} {n t : Nat} {s s' : Clocked} {x : Step}

theorem Orderly.handling_eq (h : s.Orderly c n) (i : Nat) :
    s.watch.handling[i]? = if i < s.watch.flags.length then some .idle else none := by
  rw [h.handling, h.flags, List.getElem?_replicate]

theorem Orderly.see_of_clear (h : s.Orderly c n) {i : Nat} {e : Engine.Event}
    (relevant : e.isRelevant = true) (clear : s.watch.flags[i]? = some false) :
    s.see c i e = { s with
      watch := { s.watch with
        timer := s.watch.timer.reset s.now c.throttle, armed := .listener,
        flags := s.watch.flags.set i true },
      armings := s.armings ++ [i] } := by
  obtain ⟨hi, -⟩ := List.getElem?_eq_some_iff.1 clear
  have hidle : s.watch.handling[i]? = some .idle := by rw [h.handling_eq, if_pos hi]
  obtain ⟨hrearms, hobserve⟩ := Watch.observe_of_clear c s.now hidle clear
  rw [see, if_pos relevant, hrearms, hobserve, if_pos rfl]

theorem Orderly.see_of_not_clear (h : s.Orderly c n) {i : Nat} (e : Engine.Event)
    (set : s.watch.flags[i]? ≠ some false) : s.see c i e = s := by
  have hidle : ∀ h ∈ s.watch.handling[i]?, h = .idle := by
    rw [h.handling_eq]
    split <;> simp
  obtain ⟨hrearms, hobserve⟩ := Watch.observe_of_not_clear c s.now hidle set
  rw [see, hrearms, hobserve, if_neg Bool.false_ne_true, ite_self]

theorem Orderly.takes (h : s.Orderly c n) (hs : s.step? c x = some s') : s.Takes c x s' := by
  cases x with
  | tick =>
    simp only [step?] at hs
    split at hs <;> cases hs
    exact .tick ‹_›
  | see i e =>
    obtain rfl := Option.some.inj hs
    by_cases hrelevant : e.isRelevant = true
    · by_cases hclear : s.watch.flags[i]? = some false
      · rw [h.see_of_clear hrelevant hclear]
        exact .arm hclear
      · rw [h.see_of_not_clear e hclear]
        exact .overlook
    · rw [see, if_neg hrelevant]
      exact .overlook
  | poll =>
    simp only [step?, poll?, Option.map_eq_some_iff] at hs
    obtain ⟨wait, hwait, hs⟩ := hs
    have hsome : s.wait.isSome = true := by rw [hwait, Option.isSome_some]
    unfold Timer.poll at hs
    split at hs
    · split at hs
      · next hdue =>
        cases hs
        exact .fire hsome (of_decide_eq_true hdue)
      · next hdue =>
        cases hs
        exact .sleep hsome (Nat.lt_of_not_le (by simpa [Timer.isDue] using hdue))
    · cases hs
      simp only [Bool.false_eq_true, if_false, ← hwait]
      exact .stay
  | rewait =>
    simp only [step?, Option.map_eq_some_iff] at hs
    obtain ⟨wait, hwait, rfl⟩ := hs
    exact .rewait (by rw [hwait, Option.isSome_some])
  | start =>
    simp only [step?, start?] at hs
    split at hs <;> cases hs
    next hcan =>
    rw [Watch.startCycle_eq hcan.2]
    exact .start hcan.1 hcan.2
  | finish =>
    simp only [step?, finish?] at hs
    split at hs <;> cases hs
    next hgenerating =>
    rw [Watch.endCycle_eq hgenerating]
    exact .finish hgenerating

theorem orderly_new (now n : Nat) : (new now n).Orderly c n where
  flags := by simp [new, Watch.new]
  handling := rfl
  armed i := by simp [new, Watch.new, List.getElem?_replicate]
  once := .nil
  waits _ := rfl
  phase := .inl rfl
  sleeps _ ht := by cases ht
  soon hne := absurd rfl hne

theorem Orderly.step (h : s.Orderly c n) (hs : s.Takes c x s') : s'.Orderly c n := by
  cases hs with
  | tick =>
    have hlater : s.now + c.throttle ≤ s.now + 1 + c.throttle := by omega
    exact { h with soon := fun hne => Nat.le_trans (h.soon hne) hlater }
  | overlook | stay => exact h
  | @arm i e clear =>
    obtain ⟨hi, -⟩ := List.getElem?_eq_some_iff.1 clear
    refine ⟨by simpa using h.flags, h.handling, fun j => ?_, ?_, h.waits, h.phase, ?_, ?_⟩
    · by_cases hij : i = j
      · subst hij
        simp [hi]
      · simp [List.getElem?_set_ne hij, h.armed j, Ne.symm hij]
    · have hnew : i ∉ s.armings := by simp [h.armed, clear]
      rw [← List.concat_eq_append]
      exact List.Nodup.concat hnew h.once
    · exact fun _ _ hsignalled => by cases hsignalled
    · exact fun _ => Nat.le_refl _
  | fire => exact { h with waits := nofun, sleeps := nofun }
  | sleep waits early =>
    exact { h with
      waits := fun _ => h.waits waits
      sleeps := fun t ht _ => by cases ht; rfl }
  | rewait waits => exact { h with waits := fun _ => h.waits waits, sleeps := nofun }
  | start fired waiting =>
    refine ⟨by simpa using h.flags, h.handling, fun j => ?_, .nil, ?_, .inr rfl, ?_, ?_⟩
    · simp [List.getElem?_replicate]
    · exact fun hsome => by simp [fired] at hsome
    · exact fun t ht => by simp [fired] at ht
    · exact fun hne => absurd rfl hne
  | finish generating => exact { h with waits := fun _ => rfl, phase := .inl rfl, sleeps := nofun }

theorem orderly_of_run {now : Nat} {trace : List Step}
    (h : run? (step? c) (new now n) trace = some s) : s.Orderly c n :=
  run?_induction (P := fun _ s => s.Orderly c n) (orderly_new now n)
    (fun _ ih hs => ih.step (ih.takes hs)) h

theorem wakes_eq_false {timer : Timer} {wait : Wait} {now : Nat}
    (h : timer.wakes wait now = false) :
    timer.signalled = false ∧ ∃ u, wait.asleepUntil = some u ∧ now < u := by
  rw [Timer.wakes, Bool.or_eq_false_iff] at h
  obtain ⟨hsignalled, hlate⟩ := h
  cases hu : wait.asleepUntil with
  | none => simp [hu] at hlate
  | some u =>
    rw [hu, Option.all_some, decide_eq_false_iff_not, Nat.not_le] at hlate
    exact ⟨hsignalled, u, rfl, hlate⟩

/-- Who may sleep on sleeps until the timer is due. -/
theorem Orderly.asleep (h : s.Orderly c n) {wait : Wait} (hwait : s.wait = some wait)
    (hwakes : s.watch.timer.wakes wait s.now = false) :
    s.watch.timer.signalled = false ∧ wait = ⟨some s.watch.timer.deadline⟩ ∧
      s.now < s.watch.timer.deadline := by
  obtain ⟨hsignalled, u, hu, hlt⟩ := wakes_eq_false hwakes
  obtain rfl : wait = ⟨some u⟩ := congrArg Wait.mk hu
  obtain rfl := h.sleeps u hwait hsignalled
  exact ⟨hsignalled, rfl, hlt⟩

theorem Orderly.lt_deadline (h : s.Orderly c n) (waiting : s.watch.phase = .waiting)
    (hasleep : s.mayTick = true) : s.now < s.watch.timer.deadline := by
  unfold mayTick at hasleep
  split at hasleep
  · next wait hwait => exact (h.asleep hwait (by simpa using hasleep)).2.2
  · rw [waiting] at hasleep
    cases hasleep

theorem Orderly.length_armings_le (h : s.Orderly c n) : s.armings.length ≤ n := by
  have hsub : s.armings ⊆ List.range n := by
    intro i hi
    obtain ⟨hlt, -⟩ := List.getElem?_eq_some_iff.1 ((h.armed i).1 hi)
    exact List.mem_range.2 (h.flags ▸ hlt)
  simpa using (h.once.subperm hsub).length_le

/-- Until when a cycle that is awaited since `t` may be put off, after the armings that there
were. -/
def latest (c : Intervals) (t : Nat) (s : Clocked) : Nat := t + s.armings.length * c.throttle

theorem Orderly.latest_le (h : s.Orderly c n) (t : Nat) : s.latest c t ≤ t + n * c.throttle :=
  Nat.add_le_add_left (Nat.mul_le_mul_right _ h.length_armings_le) t

/-- A cycle is awaited since `t`, and neither the clock nor the timer has gone too far. -/
structure Timely (c : Intervals) (t : Nat) (s : Clocked) : Prop where
  waiting : s.watch.phase = .waiting
  now : s.now ≤ s.latest c t
  due : s.watch.timer.deadline ≤ s.latest c t

/-- Each arming puts the cycle off by no more than the time from an event to a cycle, and nothing
else does. -/
theorem Timely.step (h : s.Timely c t) (ho : s.Orderly c n) (hs : s.Takes c x s')
    (hne : x ≠ .start) : s'.Timely c t := by
  cases hs with
  | tick asleep => exact { h with now := Nat.le_trans (ho.lt_deadline h.waiting asleep) h.due }
  | overlook | stay => exact h
  | @arm i e clear =>
    have hmore : t + (s.armings ++ [i]).length * c.throttle = s.latest c t + c.throttle := by
      rw [List.length_append, List.length_singleton, Nat.succ_mul, latest, Nat.add_assoc]
    refine ⟨h.waiting, ?_, ?_⟩
    · calc
        s.now ≤ s.latest c t := h.now
        _ ≤ s.latest c t + c.throttle := Nat.le_add_right _ _
        _ = _ := hmore.symm
    · calc
        s.now + c.throttle ≤ s.latest c t + c.throttle := Nat.add_le_add_right h.now _
        _ = _ := hmore.symm
  | fire | rewait | sleep => exact ⟨h.waiting, h.now, h.due⟩
  | start => exact absurd rfl hne
  | finish generating =>
    rw [h.waiting] at generating
    cases generating

/-- After an event that matters the timer is armed for soon, whether by this listener or not. -/
theorem Orderly.timely_see (h : s.Orderly c n) (waiting : s.watch.phase = .waiting) {i : Nat}
    (hi : i < n) {e : Engine.Event} (relevant : e.isRelevant = true) :
    (s.see c i e).Timely c s.now := by
  have hseen := h.step (h.takes (x := .see i e) rfl)
  have harmed : (s.see c i e).watch.phase = .waiting ∧ (s.see c i e).now = s.now ∧
      i ∈ (s.see c i e).armings := by
    by_cases hclear : s.watch.flags[i]? = some false
    · rw [h.see_of_clear relevant hclear]
      exact ⟨waiting, rfl, List.mem_append_right _ (List.mem_singleton_self i)⟩
    · have hset : s.watch.flags[i]? = some true := by
        obtain ⟨flag, hflag⟩ : ∃ flag, s.watch.flags[i]? = some flag :=
          ⟨_, List.getElem?_eq_getElem (h.flags ▸ hi)⟩
        cases flag with
        | true => exact hflag
        | false => exact absurd hflag hclear
      rw [h.see_of_not_clear e hclear]
      exact ⟨waiting, rfl, (h.armed i).2 hset⟩
  obtain ⟨hwaiting, hnow, hmem⟩ := harmed
  have hle : s.now + c.throttle ≤ (s.see c i e).latest c s.now :=
    Nat.add_le_add_left (Nat.le_mul_of_pos_left _ (List.length_pos_of_mem hmem)) _
  refine ⟨hwaiting, ?_, ?_⟩
  · rw [hnow]
    exact Nat.le_add_right _ _
  · calc
      (s.see c i e).watch.timer.deadline ≤ (s.see c i e).now + c.throttle :=
        hseen.soon (List.ne_nil_of_mem hmem)
      _ = s.now + c.throttle := by rw [hnow]
      _ ≤ (s.see c i e).latest c s.now := hle

theorem Timely.of_run {between : List Step} (h : s.Timely c t) (ho : s.Orderly c n)
    (hrun : run? (step? c) s between = some s') (hne : .start ∉ between) :
    s'.Timely c t ∧ s'.Orderly c n := by
  refine run?_induction (P := fun between s' => .start ∉ between → s'.Timely c t ∧ s'.Orderly c n)
    (fun _ => ⟨h, ho⟩) ?_ hrun hne
  intro between r x s' _ ih hs hne
  rw [List.mem_append, not_or, List.mem_singleton] at hne
  obtain ⟨hr, hor⟩ := ih hne.1
  exact ⟨hr.step hor (hor.takes hs) (Ne.symm hne.2), hor.step (hor.takes hs)⟩

/-! To the next cycle. -/

theorem step?_poll_of_due {wait : Wait} (hwait : s.wait = some wait)
    (hwakes : s.watch.timer.wakes wait s.now = true) (due : s.watch.timer.deadline ≤ s.now) :
    s.step? c .poll = some { s with wait := none } := by
  simp [step?, poll?, hwait, Timer.poll, hwakes, Timer.isDue, due]

theorem step?_poll_of_early {wait : Wait} (hwait : s.wait = some wait)
    (hwakes : s.watch.timer.wakes wait s.now = true) (early : s.now < s.watch.timer.deadline) :
    s.step? c .poll = some { s with
      watch := { s.watch with timer := { s.watch.timer with signalled := false } },
      wait := some ⟨some s.watch.timer.deadline⟩ } := by
  simp [step?, poll?, hwait, Timer.poll, hwakes, Timer.isDue, Nat.not_le.2 early]

theorem run?_ticks (k : Nat) (hwait : s.wait = some ⟨some s.watch.timer.deadline⟩)
    (hsignalled : s.watch.timer.signalled = false) (hk : s.now + k ≤ s.watch.timer.deadline) :
    run? (step? c) s (List.replicate k .tick) = some { s with now := s.now + k } := by
  induction k generalizing s with
  | zero => rfl
  | succ k ih =>
    have htick : s.step? c .tick = some { s with now := s.now + 1 } := by
      have hlate : s.now < s.watch.timer.deadline := by omega
      simp [step?, mayTick, hwait, Timer.wakes, hsignalled, hlate]
    rw [List.replicate_succ, run?_cons, htick, Option.bind_some]
    refine (ih (s := { s with now := s.now + 1 }) hwait hsignalled ?_).trans ?_
    · show s.now + 1 + k ≤ s.watch.timer.deadline
      omega
    · rw [Nat.add_assoc, Nat.add_comm 1 k]

def FiresBy (c : Intervals) (s : Clocked) (more : List Step) (limit : Nat) : Prop :=
  (∀ x ∈ more, x = .tick ∨ x = .poll) ∧ ∃ s', run? (step? c) s more = some s' ∧
    s'.wait = none ∧ s'.watch.phase = s.watch.phase ∧ s'.now ≤ limit

theorem firesBy_of_asleep (hwait : s.wait = some ⟨some s.watch.timer.deadline⟩)
    (hsignalled : s.watch.timer.signalled = false) (hnow : s.now ≤ s.watch.timer.deadline) :
    s.FiresBy c (List.replicate (s.watch.timer.deadline - s.now) .tick ++ [.poll])
      s.watch.timer.deadline := by
  have hticks := run?_ticks (c := c) (s.watch.timer.deadline - s.now) hwait hsignalled
    (Nat.le_of_eq (Nat.add_sub_cancel' hnow))
  rw [Nat.add_sub_cancel' hnow] at hticks
  have hpoll : step? c { s with now := s.watch.timer.deadline } .poll =
      some { s with now := s.watch.timer.deadline, wait := none } :=
    step?_poll_of_due hwait (by simp [Timer.wakes]) (Nat.le_refl _)
  refine ⟨?_, _, run?_concat.2 ⟨_, hticks, hpoll⟩, rfl, rfl, Nat.le_refl _⟩
  simp only [List.mem_append, List.mem_replicate, List.mem_singleton]
  rintro x (⟨-, rfl⟩ | rfl)
  · exact .inl rfl
  · exact .inr rfl

/-- If nobody arms it again, the timer fires at its deadline, or at once if that has passed. -/
theorem Orderly.exists_firesBy (h : s.Orderly c n) :
    ∃ more, s.FiresBy c more (max s.now s.watch.timer.deadline) := by
  cases hwait : s.wait with
  | none => exact ⟨[], nofun, s, rfl, hwait, rfl, Nat.le_max_left _ _⟩
  | some wait =>
    cases hwakes : s.watch.timer.wakes wait s.now with
    | false =>
      obtain ⟨hsignalled, rfl, hlt⟩ := h.asleep hwait hwakes
      rw [Nat.max_eq_right (Nat.le_of_lt hlt)]
      exact ⟨_, firesBy_of_asleep hwait hsignalled (Nat.le_of_lt hlt)⟩
    | true =>
      rcases Nat.lt_or_ge s.now s.watch.timer.deadline with hlt | hdue
      · -- The control loop looks at the timer and goes to sleep.
        obtain ⟨hmore, s', hrun, hfired, hphase, hnow⟩ := firesBy_of_asleep (c := c)
          (s := { s with
            watch := { s.watch with timer := { s.watch.timer with signalled := false } },
            wait := some ⟨some s.watch.timer.deadline⟩ }) rfl rfl (Nat.le_of_lt hlt)
        refine ⟨.poll :: _, List.forall_mem_cons.2 ⟨.inr rfl, hmore⟩, s', ?_, hfired, hphase, ?_⟩
        · rw [run?_cons, step?_poll_of_early hwait hwakes hlt]
          exact hrun
        · exact Nat.le_trans hnow (Nat.le_max_right _ _)
      · refine ⟨[.poll], List.forall_mem_singleton.2 (.inr rfl), { s with wait := none }, ?_, rfl,
          rfl, Nat.le_max_left _ _⟩
        rw [run?_singleton]
        exact step?_poll_of_due hwait hwakes hdue

/-- A cycle that is awaited begins if nobody arms the timer again. -/
theorem Timely.exists_start (h : s.Timely c t) (ho : s.Orderly c n) :
    ∃ more s', (∀ x ∈ more, x = .tick ∨ x = .poll) ∧
      run? (step? c) s (more ++ [.start]) = some s' ∧ s'.now ≤ s.latest c t := by
  obtain ⟨more, hmore, r, hrun, hfired, hphase, hnow⟩ := ho.exists_firesBy
  rw [h.waiting] at hphase
  have hstart : r.step? c .start =
      some { r with watch := r.watch.startCycle c r.now, armings := [] } := by
    simp [step?, start?, hfired, hphase]
  refine ⟨more, _, hmore, run?_concat.2 ⟨r, hrun, hstart⟩, ?_⟩
  exact Nat.le_trans hnow (Nat.max_le.2 ⟨h.now, h.due⟩)

variable {begun : Nat} {trace : List Step}

/-- However many events there are, each listener arms the timer once at most between two cycles. So
if the control loop waits when an event that matters is seen, the next cycle begins after no more
than the time from an event to a cycle for each listener: the clock does not go further without it,
and the control loop gets there by itself. -/
theorem bursts_bounded (h : run? (step? c) (new begun n) trace = some s) :
    s.armings.Nodup ∧
    ∀ i e between s', s.watch.phase = .waiting → i < n → e.isRelevant = true →
      run? (step? c) s (.see i e :: between) = some s' → .start ∉ between →
      s'.now ≤ s.now + n * c.throttle ∧
        ∃ more r, (∀ x ∈ more, x = .tick ∨ x = .poll) ∧
          run? (step? c) s' (more ++ [.start]) = some r ∧ r.now ≤ s.now + n * c.throttle := by
  have ho := orderly_of_run h
  refine ⟨ho.once, ?_⟩
  intro i e between s' waiting hi relevant hrun hne
  rw [run?_cons, show s.step? c (.see i e) = some (s.see c i e) from rfl, Option.bind_some] at hrun
  have hseen := ho.step (ho.takes (x := .see i e) rfl)
  obtain ⟨htimely, ho'⟩ := (ho.timely_see waiting hi relevant).of_run hseen hrun hne
  obtain ⟨more, r, hmore, hstart, hnow⟩ := htimely.exists_start ho'
  exact ⟨Nat.le_trans htimely.now (ho'.latest_le _), more, r, hmore, hstart,
    Nat.le_trans hnow (ho'.latest_le _)⟩

def started : Engine.Event := { kind := "container", action := "start" }

def quick : Intervals := { polling := 10, throttle := 3 }

def firstCycle : List Step := [.poll, .start, .tick, .finish, .poll, .tick, .tick]

def afterFirstCycle : Clocked :=
  ⟨3, ⟨⟨10, false⟩, .loop, [false, false], [.idle, .idle], .waiting⟩, some ⟨some 10⟩, []⟩

def burst : List Step :=
  [.see 0 started, .poll, .tick, .tick, .see 1 started, .see 0 started, .poll, .tick,
    .see 1 started, .tick, .see 0 started, .tick]

def afterBurst : Clocked :=
  ⟨8, ⟨⟨8, false⟩, .listener, [true, true], [.idle, .idle], .waiting⟩, some ⟨some 8⟩, [0, 1]⟩

theorem bursts_bounded_twoListeners :
    run? (step? quick) (new 0 2) firstCycle = some afterFirstCycle ∧ started.isRelevant = true ∧
      run? (step? quick) afterFirstCycle burst = some afterBurst ∧ .start ∉ burst ∧
      afterBurst.now ≤ 3 + 2 * 3 ∧
        ∃ more r, (∀ x ∈ more, x = .tick ∨ x = .poll) ∧
          run? (step? quick) afterBurst (more ++ [.start]) = some r ∧ r.now ≤ 3 + 2 * 3 := by
  have hcycle : run? (step? quick) (new 0 2) firstCycle = some afterFirstCycle := by decide
  have hburst : run? (step? quick) afterFirstCycle burst = some afterBurst := by decide
  have hne : Step.start ∉ burst := by decide
  have hrelevant : started.isRelevant = true := by decide
  exact ⟨hcycle, hrelevant, hburst, hne,
    (bursts_bounded hcycle).2 0 started burst.tail afterBurst rfl (by decide) hrelevant hburst
      (by decide)⟩

end Clocked

end ProxyFleet.Control
