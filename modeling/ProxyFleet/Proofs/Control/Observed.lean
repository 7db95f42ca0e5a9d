import ProxyFleet.Control.Watch
import ProxyFleet.Proofs.Runs

/-!
No event is lost, in whatever order listeners and the control loop take their steps. From an event
that matters to the next generation there is always someone who sees to it: the control loop, which
is about to generate, a listener, which is about to arm the timer, or the timer, which a listener has
armed since the control loop armed it.
-/

namespace ProxyFleet.Control

def Step.isObservation : Step → Bool
  | .look _ | .mark _ | .arm _ => true
  | _ => false

namespace Watch

variable {c : Intervals} {now : Nat} {w w' : Watch} {s : Step}

def stepAt? (c : Intervals) (w : Watch) (s : Nat × Step) : Option Watch := w.step? c s.1 s.2

inductive Takes (c : Intervals) (now : Nat) (w : Watch) : Step → Watch → Prop
  | skip {i : Nat} (idle : w.handling[i]? = some .idle) (set : w.flags[i]? = some true) :
    Takes c now w (.look i) w
  | pass {i : Nat} (idle : w.handling[i]? = some .idle) (clear : w.flags[i]? = some false) :
    Takes c now w (.look i) { w with handling := w.handling.set i .passed }
  | mark {i : Nat} (passed : w.handling[i]? = some .passed) :
    Takes c now w (.mark i)
      { w with flags := w.flags.set i true, handling := w.handling.set i .marked }
  | arm {i : Nat} (marked : w.handling[i]? = some .marked) :
    Takes c now w (.arm i) { w with
      timer := w.timer.reset now c.throttle, armed := .listener,
      handling := w.handling.set i .idle }
  | rearm (waiting : w.phase = .waiting) :
    Takes c now w .rearm { w with
      timer := w.timer.reset now c.polling, armed := .loop, phase := .clearing 0 }
  | clear {i : Nat} (clearing : w.phase = .clearing i) (more : i < w.flags.length) :
    Takes c now w .clear { w with flags := w.flags.set i false, phase := .clearing (i + 1) }
  | generate {i : Nat} (clearing : w.phase = .clearing i) (all : w.flags.length ≤ i) :
    Takes c now w .generate { w with phase := .generating }
  | finish (generating : w.phase = .generating) :
    Takes c now w .finish { w with phase := .waiting }

theorem takes_of_step? (h : w.step? c now s = some w') : Takes c now w s w' := by
  cases s with
  | look i =>
    simp only [step?, look?] at h
    split at h
    · cases h
      exact .skip ‹_› ‹_›
    · cases h
      exact .pass ‹_› ‹_›
    · cases h
  | mark i =>
    simp only [step?, mark?] at h
    split at h <;> cases h
    exact .mark ‹_›
  | arm i =>
    simp only [step?, arm?] at h
    split at h <;> cases h
    exact .arm ‹_›
  | rearm =>
    simp only [step?, rearm?] at h
    split at h <;> cases h
    exact .rearm ‹_›
  | clear =>
    simp only [step?, clear?] at h
    split at h
    · split at h <;> cases h
      exact .clear ‹_› ‹_›
    · cases h
  | generate =>
    simp only [step?, generate?] at h
    split at h
    · split at h <;> cases h
      exact .generate ‹_› (Nat.not_lt.1 ‹_›)
    · cases h
  | finish =>
    simp only [step?, finish?] at h
    split at h <;> cases h
    exact .finish ‹_›

/-- The control loop has begun a cycle and is yet to generate. -/
def IsStarting (w : Watch) : Prop := ∃ next, w.phase = .clearing next

/-- A listener has found its flag clear and is yet to arm the timer. -/
def IsHandling (w : Watch) : Prop :=
  ∃ i : Nat, w.handling[i]? = some .passed ∨ w.handling[i]? = some .marked

/-- Someone sees to it that there will be a generation soon. -/
def IsAnswered (w : Watch) : Prop := w.IsStarting ∨ w.IsHandling ∨ w.armed = .listener

/-- If an idle listener has its flag set, the control loop is about to clear the flag, or a listener
has armed the timer. -/
def FlagsAnswered (w : Watch) : Prop :=
  ∀ i : Nat, w.flags[i]? = some true → w.handling[i]? = some .idle →
    (∃ next ≤ i, w.phase = .clearing next) ∨ w.armed = .listener

theorem flagsAnswered_new (now engines : Nat) : (new now engines).FlagsAnswered := by
  intro i hflag
  simp [new, List.getElem?_replicate] at hflag

/-- What is found in a changed list is where it was if it is not what was put there. -/
theorem getElem?_of_set {α : Type} {l : List α} {i j : Nat} {x y : α} (hne : x ≠ y)
    (h : (l.set i x)[j]? = some y) : i ≠ j ∧ l[j]? = some y := by
  rw [List.getElem?_set] at h
  split at h
  · split at h
    · exact absurd (Option.some.inj h) hne
    · cases h
  · exact ⟨‹_›, h⟩

theorem Takes.flagsAnswered (hs : Takes c now w s w') (h : w.FlagsAnswered) :
    w'.FlagsAnswered := by
  intro j hflag hidle
  cases hs with
  | skip => exact h j hflag hidle
  | pass => exact h j hflag (getElem?_of_set (by decide) hidle).2
  | mark =>
    obtain ⟨hij, hidle⟩ := getElem?_of_set (by decide) hidle
    exact h j (by rwa [List.getElem?_set_ne hij] at hflag) hidle
  | arm => exact Or.inr rfl
  | rearm => exact Or.inl ⟨0, Nat.zero_le j, rfl⟩
  | clear clearing =>
    obtain ⟨hij, hflag⟩ := getElem?_of_set (by decide) hflag
    rcases h j hflag hidle with ⟨next, hle, hnext⟩ | harmed
    · rw [clearing] at hnext
      cases hnext
      exact Or.inl ⟨_, Nat.lt_of_le_of_ne hle hij, rfl⟩
    · exact Or.inr harmed
  | generate clearing all =>
    rcases h j hflag hidle with ⟨next, hle, hnext⟩ | harmed
    · -- The flag would be one that there is not.
      rw [clearing] at hnext
      cases hnext
      obtain ⟨hj, -⟩ := List.getElem?_eq_some_iff.1 hflag
      exact absurd (Nat.le_trans all hle) (Nat.not_le.2 hj)
    · exact Or.inr harmed
  | finish generating =>
    rcases h j hflag hidle with ⟨next, -, hnext⟩ | harmed
    · rw [generating] at hnext
      cases hnext
    · exact Or.inr harmed

/-- An observation is answered at once, and it stays answered until there is a generation. -/
theorem Takes.isAnswered (hs : Takes c now w s w') (hflags : w.FlagsAnswered)
    (h : s.isObservation ∨ w.IsAnswered) (hne : s ≠ .generate) : w'.IsAnswered := by
  cases hs with
  | @skip i idle set =>
    rcases hflags i set idle with ⟨next, -, hnext⟩ | harmed
    · exact Or.inl ⟨next, hnext⟩
    · exact Or.inr (Or.inr harmed)
  | @pass i idle clear =>
    obtain ⟨hi, -⟩ := List.getElem?_eq_some_iff.1 idle
    exact Or.inr (Or.inl ⟨i, Or.inl (List.getElem?_set_self hi)⟩)
  | @mark i passed =>
    obtain ⟨hi, -⟩ := List.getElem?_eq_some_iff.1 passed
    exact Or.inr (Or.inl ⟨i, Or.inr (List.getElem?_set_self hi)⟩)
  | arm => exact Or.inr (Or.inr rfl)
  | rearm => exact Or.inl ⟨0, rfl⟩
  | clear => exact Or.inl ⟨_, rfl⟩
  | generate => exact absurd rfl hne
  | finish generating =>
    rcases h.resolve_left nofun with ⟨next, hnext⟩ | hhandling | harmed
    · rw [generating] at hnext
      cases hnext
    · exact Or.inr (Or.inl hhandling)
    · exact Or.inr (Or.inr harmed)

variable {start engines : Nat} {run : List (Nat × Step)}

theorem flagsAnswered_of_run? (h : run? (stepAt? c) (new start engines) run = some w) :
    w.FlagsAnswered :=
  run?_induction (P := fun _ w => w.FlagsAnswered) (flagsAnswered_new start engines)
    (fun _ hw hs => (takes_of_step? hs).flagsAnswered hw) h

/-- There was an observation, and since then nothing was generated. -/
def IsAwaited (run : List (Nat × Step)) : Prop :=
  ∃ earlier s later, run = earlier ++ s :: later ∧ s.2.isObservation = true ∧
    ∀ r ∈ later, r.2 ≠ .generate

theorem isAwaited_concat {s : Nat × Step} (h : IsAwaited (run ++ [s])) :
    s.2.isObservation = true ∨ IsAwaited run ∧ s.2 ≠ .generate := by
  obtain ⟨earlier, r, later, hrun, hobs, hlater⟩ := h
  rcases List.eq_nil_or_concat later with rfl | ⟨later, r', rfl⟩
  · obtain ⟨-, he⟩ := List.append_inj' hrun rfl
    exact Or.inl (List.singleton_inj.1 he ▸ hobs)
  · rw [List.concat_eq_append] at hrun hlater
    rw [← List.cons_append, ← List.append_assoc] at hrun
    obtain ⟨rfl, he⟩ := List.append_inj' hrun rfl
    obtain rfl := List.singleton_inj.1 he
    obtain ⟨hlater, hne⟩ := List.forall_mem_append.1 hlater
    exact Or.inr ⟨⟨earlier, r, later, rfl, hobs, hlater⟩, hne s (List.mem_singleton_self s)⟩

theorem isAnswered_of_run? (h : run? (stepAt? c) (new start engines) run = some w) :
    IsAwaited run → w.IsAnswered := by
  refine run?_induction (P := fun run w => IsAwaited run → w.IsAnswered) ?_ ?_ h
  · rintro ⟨earlier, s, later, hrun, -⟩
    exact absurd hrun.symm (by simp)
  · intro run w s w' hw ih hs hawaited
    have hflags := flagsAnswered_of_run? hw
    rcases isAwaited_concat hawaited with hobs | ⟨hbefore, hne⟩
    · refine (takes_of_step? hs).isAnswered hflags (Or.inl hobs) fun he => ?_
      rw [he] at hobs
      cases hobs
    · exact (takes_of_step? hs).isAnswered hflags (Or.inr (ih hbefore)) hne

/-- The timer is as a listener armed it at `time`; since then nobody has armed it. -/
def ArmedAt (c : Intervals) (run : List (Nat × Step)) (w : Watch) (time : Nat) : Prop :=
  ∃ i earlier later, run = earlier ++ (time, .arm i) :: later ∧
    (∀ s ∈ later, s.2 ≠ .rearm ∧ ∀ j, s.2 ≠ .arm j) ∧ w.timer.deadline = time + c.throttle

theorem ArmedAt.concat {time : Nat} {s : Nat × Step} (h : ArmedAt c run w time)
    (htimer : w'.timer = w.timer) (hs : s.2 ≠ .rearm ∧ ∀ j, s.2 ≠ .arm j) :
    ArmedAt c (run ++ [s]) w' time := by
  obtain ⟨i, earlier, later, rfl, hlater, hdeadline⟩ := h
  refine ⟨i, earlier, later ++ [s], by simp, ?_, by rw [htimer, hdeadline]⟩
  exact List.forall_mem_append.2 ⟨hlater, List.forall_mem_singleton.2 hs⟩

theorem exists_armedAt (h : run? (stepAt? c) (new start engines) run = some w) :
    w.armed = .listener → ∃ time, ArmedAt c run w time := by
  refine run?_induction (P := fun run w => w.armed = .listener → ∃ time, ArmedAt c run w time)
    (fun harmed => absurd harmed (by simp [new])) ?_ h
  rintro run w ⟨now, s⟩ w' - ih hs harmed
  cases takes_of_step? hs
  case arm => exact ⟨now, _, run, [], rfl, nofun, rfl⟩
  case rearm => cases harmed
  all_goals exact (ih harmed).imp fun time h => h.concat rfl (by simp)

/-- After every observation, until something is generated, the control loop is about to generate, or
a listener is about to arm the timer, or the timer is armed for soon: a listener has armed it since
the control loop did, and it is due within the time from an event to a cycle. -/
theorem observed_not_lost (h : run? (stepAt? c) (new start engines) run = some w)
    (hawaited : IsAwaited run) :
    w.IsStarting ∨ w.IsHandling ∨ ∃ time, ArmedAt c run w time ∧
      ∀ now, (∀ s ∈ run, s.1 ≤ now) → w.timer.isDue (now + c.throttle) = true := by
  refine (isAnswered_of_run? h hawaited).imp_right (Or.imp_right fun harmed => ?_)
  obtain ⟨time, harmedAt⟩ := exists_armedAt h harmed
  refine ⟨time, harmedAt, fun now hnow => ?_⟩
  obtain ⟨i, earlier, later, rfl, -, hdeadline⟩ := harmedAt
  have htime := hnow (time, .arm i) (by simp)
  rw [Timer.isDue, hdeadline, decide_eq_true_eq]
  exact Nat.add_le_add_right htime _

/-- Two listeners handle events while a cycle begins: one has set its flag before it is cleared, the
other has found its flag clear before that. Then the second sees another event. -/
def overlappingEvents : List (Nat × Step) :=
  [(0, .look 0), (0, .mark 0), (1, .rearm), (1, .clear), (2, .look 1), (2, .clear), (3, .generate),
    (4, .mark 1), (5, .arm 0), (7, .arm 1), (8, .look 1), (9, .finish)]

def afterOverlappingEvents : Watch :=
  ⟨⟨107, true⟩, .listener, [false, true], [.idle, .idle], .waiting⟩

theorem observed_not_lost_overlapping :
    run? (stepAt? {}) (new 0 2) overlappingEvents = some afterOverlappingEvents ∧
      IsAwaited overlappingEvents ∧
      (afterOverlappingEvents.IsStarting ∨ afterOverlappingEvents.IsHandling ∨
        ∃ time, ArmedAt {} overlappingEvents afterOverlappingEvents time ∧
          ∀ now, (∀ s ∈ overlappingEvents, s.1 ≤ now) →
            afterOverlappingEvents.timer.isDue (now + 100) = true) :=
  have hrun : run? (stepAt? {}) (new 0 2) overlappingEvents = some afterOverlappingEvents := rfl
  have hawaited : IsAwaited overlappingEvents :=
    ⟨overlappingEvents.take 10, (8, .look 1), [(9, .finish)], rfl, rfl, by decide⟩
  ⟨hrun, hawaited, observed_not_lost hrun hawaited⟩

end Watch

end ProxyFleet.Control
