import ProxyFleet.Control.Loop
import ProxyFleet.Proofs.Delivery.Registered

/-!
Versions over a run of the control loop. Its cycles count the Caddyfiles that differ from the one
before and can be converted; a rollout keeps the version and the configuration that it was begun
with, however long its pushes take.
-/

namespace ProxyFleet.Control.Loop

variable {l m : Loop} {s : Step} {trace : List Step} {g : Fleet.Generated}

inductive Takes (l : Loop) : Step → Loop → Prop
  | unchanged {g : Fleet.Generated} (idle : l.converting = none)
    (same : l.versions.last = some g.caddyfile) : Takes l (.generated g) (l.deliver .same g.servers)
  | changed {g : Fleet.Generated} (idle : l.converting = none)
    (differs : l.versions.last ≠ some g.caddyfile) : Takes l (.generated g) { l with
      versions := { l.versions with last := some g.caddyfile }, converting := some g }
  | accepted {g : Fleet.Generated} {config : Json} (awaited : l.converting = some g) :
    Takes l (.converted (.ok config)) (deliver { l with
      versions := { l.versions with config := some config, number := l.versions.number + 1 },
      converting := none } .accepted g.servers)
  | rejected {g : Fleet.Generated} {failure : Failure} (awaited : l.converting = some g) :
    Takes l (.converted (.error failure)) { l with converting := none }
  | push {x : Delivery.Step} {dispatch : Delivery.Dispatch}
    (taken : l.dispatch.step? x = some dispatch) : Takes l (.push x) { l with dispatch }

theorem takes_of_step? (h : l.step? s = some m) : Takes l s m := by
  cases s with
  | generated g =>
    cases hc : l.converting with
    | some awaited =>
      rw [step?, generated?_eq_none_iff.2 (by simp [hc])] at h
      cases h
    | none =>
      by_cases hsame : l.versions.last = some g.caddyfile
      · rw [step?, generated?_of_same hc hsame] at h
        cases h
        exact .unchanged hc hsame
      · rw [step?, generated?_of_ne hc hsame] at h
        cases h
        exact .changed hc hsame
  | converted outcome =>
    cases hc : l.converting with
    | none =>
      rw [step?, converted?_eq_none_iff.2 hc] at h
      cases h
    | some awaited =>
      cases outcome with
      | ok config =>
        rw [step?, converted?_ok hc] at h
        cases h
        exact .accepted hc
      | error failure =>
        rw [step?, converted?_error hc] at h
        cases h
        exact .rejected hc
  | push x =>
    simp only [step?, Option.map_eq_some_iff] at h
    obtain ⟨dispatch, taken, rfl⟩ := h
    exact .push taken

def caddyfiles (trace : List Step) : List String := trace.filterMap fun
  | .generated g => some g.caddyfile
  | _ => none

def results (trace : List Step) : List Json := trace.filterMap fun
  | .converted (.ok config) => some config
  | _ => none

/-- The load has the version and the configuration of one of the results. -/
def Carries (configs : List Json) (load : Delivery.Load) : Prop :=
  0 < load.version ∧ configs[load.version - 1]? = some load.config

theorem Carries.append {configs more : List Json} {load : Delivery.Load}
    (h : Carries configs load) : Carries (configs ++ more) load := by
  obtain ⟨hpos, hconfig⟩ := h
  obtain ⟨hlt, -⟩ := List.getElem?_eq_some_iff.1 hconfig
  exact ⟨hpos, by rw [List.getElem?_append_left hlt, hconfig]⟩

/-- The newest version has the last result. -/
theorem carries_getLast? {configs : List Json} {config : Json} (h : configs.getLast? = some config)
    (server : String) : Carries configs ⟨server, configs.length, config⟩ := by
  have hpos : 0 < configs.length := List.length_pos_of_mem (List.mem_of_getLast? h)
  exact ⟨hpos, by rw [← List.getLast?_eq_getElem?, h]⟩

structure Versioned (trace : List Step) (l : Loop) : Prop where
  last : l.versions.last = (caddyfiles trace).getLast?
  number : l.versions.number = (results trace).length
  config : l.versions.config = (results trace).getLast?
  /-- There is one version at most for every Caddyfile, and none yet for one whose conversion
  is awaited. -/
  cycles : (results trace).length + l.converting.toList.length ≤ (caddyfiles trace).length
  pushes : ∀ x ∈ l.dispatch.pushes, Carries (results trace) x.1
  loads : ∀ x ∈ l.dispatch.loads, Carries (results trace) x

theorem versioned_new : Versioned [] {} :=
  ⟨rfl, rfl, rfl, Nat.le_refl _, nofun, nofun⟩

theorem Versioned.deliver (h : Versioned trace l) (change : Change) (servers : List String) :
    Versioned trace (l.deliver change servers) := by
  refine ⟨?_, ?_, ?_, ?_, ?_, ?_⟩
  · rw [versions_deliver, h.last]
  · rw [versions_deliver, h.number]
  · rw [versions_deliver, h.config]
  · rw [converting_deliver]
    exact h.cycles
  · rcases dispatch_deliver l change servers with hsame | ⟨config, hconfig, hadded⟩
    · rw [hsame]
      exact h.pushes
    · rw [hadded, Delivery.Dispatch.pushes_add, Delivery.Rollout.tasks_new]
      refine List.forall_mem_append.2 ⟨h.pushes, List.forall_mem_map.2 fun server _ => ?_⟩
      rw [h.config] at hconfig
      rw [h.number]
      exact carries_getLast? hconfig server
  · rcases dispatch_deliver l change servers with hsame | ⟨config, -, hadded⟩
    · rw [hsame]
      exact h.loads
    · rw [hadded]
      exact h.loads

@[simp] theorem caddyfiles_concat (trace : List Step) (s : Step) :
    caddyfiles (trace ++ [s]) = caddyfiles trace ++ caddyfiles [s] := List.filterMap_append

@[simp] theorem results_concat (trace : List Step) (s : Step) :
    results (trace ++ [s]) = results trace ++ results [s] := List.filterMap_append

theorem Versioned.pushes_concat (h : Versioned trace l) (s : Step) :
    ∀ x ∈ l.dispatch.pushes, Carries (results (trace ++ [s])) x.1 := by
  intro x hx
  rw [results_concat]
  exact (h.pushes x hx).append

theorem Versioned.loads_concat (h : Versioned trace l) (s : Step) :
    ∀ x ∈ l.dispatch.loads, Carries (results (trace ++ [s])) x := by
  intro x hx
  rw [results_concat]
  exact (h.loads x hx).append

theorem Versioned.generated (h : Versioned trace l) (idle : l.converting = none)
    (g : Fleet.Generated) (converting : Option Fleet.Generated) :
    Versioned (trace ++ [.generated g])
      { l with versions := { l.versions with last := some g.caddyfile }, converting } where
  last := by simp [caddyfiles]
  number := by simp [h.number, results]
  config := by simp [h.config, results]
  cycles := by
    have hcycles := h.cycles
    have hconverting : converting.toList.length ≤ 1 := by cases converting <;> simp
    simp [idle, caddyfiles, results] at hcycles ⊢
    omega
  pushes := h.pushes_concat _
  loads := h.loads_concat _

theorem Versioned.accepted (h : Versioned trace l) (awaited : l.converting = some g)
    (config : Json) : Versioned (trace ++ [.converted (.ok config)]) { l with
      versions := { l.versions with config := some config, number := l.versions.number + 1 },
      converting := none } where
  last := by simp [h.last, caddyfiles]
  number := by simp [h.number, results]
  config := by simp [results]
  cycles := by
    have hcycles := h.cycles
    simp [awaited, caddyfiles, results] at hcycles ⊢
    omega
  pushes := h.pushes_concat _
  loads := h.loads_concat _

theorem Versioned.rejected (h : Versioned trace l) (failure : Failure) :
    Versioned (trace ++ [.converted (.error failure)]) { l with converting := none } where
  last := by simp [h.last, caddyfiles]
  number := by simp [h.number, results]
  config := by simp [h.config, results]
  cycles := by
    have hcycles := h.cycles
    simp [caddyfiles, results] at hcycles ⊢
    omega
  pushes := h.pushes_concat _
  loads := h.loads_concat _

theorem Versioned.push (h : Versioned trace l) {x : Delivery.Step} {dispatch : Delivery.Dispatch}
    (hx : l.dispatch.step? x = some dispatch) :
    Versioned (trace ++ [.push x]) { l with dispatch } := by
  obtain ⟨hpushes, hloads⟩ := Delivery.Dispatch.forall_load_of_step? hx
    (h.pushes_concat (.push x)) (h.loads_concat (.push x))
  exact ⟨by simp [h.last, caddyfiles], by simp [h.number, results], by simp [h.config, results],
    by simpa [caddyfiles, results] using h.cycles, hpushes, hloads⟩

theorem Versioned.takes (h : Versioned trace l) (hs : Takes l s m) :
    Versioned (trace ++ [s]) m := by
  cases hs with
  | @unchanged g idle same =>
    have hgenerated := h.generated idle g none
    rw [← same, ← idle] at hgenerated
    exact hgenerated.deliver .same g.servers
  | @changed g idle differs => exact h.generated idle g (some g)
  | accepted awaited => exact (h.accepted awaited _).deliver _ _
  | rejected awaited => exact h.rejected _
  | push taken => exact h.push taken

theorem versioned_of_run (h : run? step? {} trace = some l) : Versioned trace l :=
  run?_induction (P := Versioned) versioned_new (fun _ ih hs => ih.takes (takes_of_step? hs)) h

theorem exists_happen?_of_deliver (l : Loop) (change : Change) (servers : List String) :
    ∃ events, run? Delivery.Dispatch.happen? l.dispatch events =
      some (l.deliver change servers).dispatch := by
  rcases dispatch_deliver l change servers with hsame | ⟨config, -, hadded⟩
  · exact ⟨[], congrArg some hsame.symm⟩
  · exact ⟨[.rollout l.versions.number config servers], by rw [run?_singleton, hadded]; rfl⟩

/-- A run of the loop begins rollouts and takes steps of their pushes. -/
theorem exists_happen?_of_run (h : run? step? l trace = some m) :
    ∃ events, run? Delivery.Dispatch.happen? l.dispatch events = some m.dispatch := by
  refine run?_induction (P := fun _ m => ∃ events,
    run? Delivery.Dispatch.happen? l.dispatch events = some m.dispatch) ⟨[], rfl⟩ ?_ h
  rintro trace r s m - ⟨events, hevents⟩ hs
  obtain ⟨more, hmore⟩ : ∃ more, run? Delivery.Dispatch.happen? r.dispatch more =
      some m.dispatch := by
    cases takes_of_step? hs with
    | unchanged => exact exists_happen?_of_deliver r _ _
    | accepted =>
      exact exists_happen?_of_deliver { r with versions := _, converting := none } _ _
    | changed | rejected => exact ⟨[], rfl⟩
    | @push x dispatch taken => exact ⟨[.push x], by rw [run?_singleton]; exact taken⟩
  exact ⟨events ++ more, by rw [run?_append, hevents]; exact hmore⟩

theorem of_step?_push {x : Delivery.Step} (h : l.step? (.push x) = some m) :
    m.versions = l.versions ∧ m.converting = l.converting := by
  cases takes_of_step? h
  exact ⟨rfl, rfl⟩

/-- A load is logged when it is begun, and a version when its server has loaded it. -/
theorem logged_of_step?_push {x : Delivery.Step} (h : l.step? (.push x) = some m) :
    ∃ load p, l.dispatch.push? x.rollout x.push = some (load, p) ∧
      m.dispatch.loads = l.dispatch.loads ++ (if x.move = .send then [load] else []) ∧
      m.dispatch.acknowledged =
        l.dispatch.acknowledged ++ if x.move = .record then [load.update] else [] := by
  cases takes_of_step? h with
  | push taken =>
    obtain ⟨load, p, p', before, after, hp, hm, -⟩ := Delivery.Dispatch.takes_of_step? taken
    exact ⟨load, p, hp, hm.loads_eq, hm.acknowledged_eq⟩

theorem of_run?_push {meanwhile : List Delivery.Step}
    (h : run? step? l (meanwhile.map .push) = some m) :
    m.versions = l.versions ∧ m.converting = l.converting := by
  induction meanwhile generalizing l with
  | nil =>
    obtain rfl := Option.some.inj h
    exact ⟨rfl, rfl⟩
  | cons x meanwhile ih =>
    rw [List.map_cons, run?_cons, Option.bind_eq_some_iff] at h
    obtain ⟨r, hr, hm⟩ := h
    obtain ⟨hversions, hconverting⟩ := of_step?_push hr
    rw [← hversions, ← hconverting]
    exact ih hm

/-- The step can be taken and ends a cycle with this version and configuration. -/
def EndsCycle (l : Loop) (s : Step) (number : Nat) (config : Option Json) : Prop :=
  ∃ m, l.step? s = some m ∧ m.converting = none ∧ m.versions.number = number ∧
    m.versions.config = config

theorem endsCycle_ok (awaited : l.converting = some g) (config : Json) :
    l.EndsCycle (.converted (.ok config)) (l.versions.number + 1) (some config) :=
  ⟨_, converted?_ok awaited, by simp, by simp, by simp⟩

theorem endsCycle_error (awaited : l.converting = some g) (failure : Failure) :
    l.EndsCycle (.converted (.error failure)) l.versions.number l.versions.config :=
  ⟨_, converted?_error awaited, rfl, rfl, rfl⟩

theorem endsCycle_same (idle : l.converting = none) (same : l.versions.last = some g.caddyfile) :
    l.EndsCycle (.generated g) l.versions.number l.versions.config :=
  ⟨_, generated?_of_same idle same, by simp [idle], by simp, by simp⟩

/-- A cycle whose Caddyfile differs awaits its conversion, whatever pushes do meanwhile, and it is
the conversion that makes the version. -/
theorem awaits_of_ne (idle : l.converting = none) (differs : l.versions.last ≠ some g.caddyfile)
    {meanwhile : List Delivery.Step}
    (hm : run? step? l (.generated g :: meanwhile.map .push) = some m) :
    m.converting = some g ∧ m.versions.number = l.versions.number ∧
      m.versions.config = l.versions.config := by
  rw [run?_cons, step?, generated?_of_ne idle differs, Option.bind_some] at hm
  obtain ⟨hversions, hconverting⟩ := of_run?_push hm
  rw [hversions, hconverting]
  exact ⟨rfl, rfl, rfl⟩

/-- What is loaded from now on is newer than what its server has acknowledged by now. -/
theorem loads_of_run (h : run? step? {} trace = some l) {more : List Step}
    (hm : run? step? l more = some m) :
    ∃ new, m.dispatch.loads = l.dispatch.loads ++ new ∧
      ∀ x ∈ new, ∀ u ∈ l.dispatch.acknowledged, u.server = x.server → u.version < x.version := by
  obtain ⟨events, hevents⟩ := exists_happen?_of_run h
  obtain ⟨events', hevents'⟩ := exists_happen?_of_run hm
  have hagrees := Delivery.Dispatch.agrees_of_run Delivery.Ledger.agrees_nil hevents
  obtain ⟨new, hloads, hnew⟩ := Delivery.Dispatch.loads_of_run hagrees hevents'
  refine ⟨new, hloads, fun x hx u hu hserver => ?_⟩
  calc
    u.version ≤ (l.dispatch.registry.standing u.server).version := hagrees.version_le_of_mem hu
    _ = (l.dispatch.registry.standing x.server).version := by rw [hserver]
    _ < x.version := hnew x hx

/-- At any time of any run: a cycle makes one version if its Caddyfile differs from the one before
and is converted, and otherwise leaves version and configuration alone; the configuration is the
result that made the version; a load of a version carries the result that made it; and a server that
has acknowledged a version is told to load newer ones only. -/
theorem versions_exact (h : run? step? {} trace = some l) :
    (∀ g, l.converting = none →
      if (caddyfiles trace).getLast? = some g.caddyfile then
        l.EndsCycle (.generated g) l.versions.number l.versions.config
      else
        (l.step? (.generated g)).isSome = true ∧ ∀ (meanwhile : List Delivery.Step) m,
          run? step? l (.generated g :: meanwhile.map .push) = some m →
            (∀ config, m.EndsCycle (.converted (.ok config)) (l.versions.number + 1) (some config)) ∧
            ∀ failure, m.EndsCycle (.converted (.error failure)) l.versions.number
              l.versions.config) ∧
    (∀ g outcome, (l.step? (.generated g) = none ↔ l.converting.isSome = true) ∧
      (l.step? (.converted outcome) = none ↔ l.converting = none)) ∧
    (∀ x m, l.step? (.push x) = some m → m.versions = l.versions ∧ m.converting = l.converting ∧
      ∃ load p, l.dispatch.push? x.rollout x.push = some (load, p) ∧
        m.dispatch.loads = l.dispatch.loads ++ (if x.move = .send then [load] else []) ∧
        m.dispatch.acknowledged =
          l.dispatch.acknowledged ++ if x.move = .record then [load.update] else []) ∧
    l.versions.number = (results trace).length ∧
    l.versions.number ≤ (caddyfiles trace).length ∧
    l.versions.config = (results trace).getLast? ∧
    (∀ x ∈ l.dispatch.loads, 0 < x.version ∧ x.version ≤ l.versions.number ∧
      (results trace)[x.version - 1]? = some x.config) ∧
    ∀ more m, run? step? l more = some m → ∃ new, m.dispatch.loads = l.dispatch.loads ++ new ∧
      ∀ x ∈ new, ∀ u ∈ l.dispatch.acknowledged, u.server = x.server → u.version < x.version := by
  have hl := versioned_of_run h
  refine ⟨fun g idle => ?_, fun g outcome => ⟨generated?_eq_none_iff, converted?_eq_none_iff⟩,
    fun x m hm => ?_, hl.number, ?_, hl.config, ?_, fun more m hm => loads_of_run h hm⟩
  · rw [← hl.last]
    split
    · next same => exact endsCycle_same idle same
    · next differs =>
      refine ⟨by simp [step?, generated?_of_ne idle differs], fun meanwhile m hm => ?_⟩
      obtain ⟨awaited, hnumber, hconfig⟩ := awaits_of_ne idle differs hm
      rw [← hnumber, ← hconfig]
      exact ⟨endsCycle_ok awaited, endsCycle_error awaited⟩
  · obtain ⟨hversions, hconverting⟩ := of_step?_push hm
    exact ⟨hversions, hconverting, logged_of_step?_push hm⟩
  · have hcycles := hl.cycles
    rw [hl.number]
    omega
  · intro x hx
    obtain ⟨hpos, hconfig⟩ := hl.loads x hx
    obtain ⟨hlt, -⟩ := List.getElem?_eq_some_iff.1 hconfig
    refine ⟨hpos, ?_, hconfig⟩
    rw [hl.number]
    omega

/-- The same server is delivered to in four cycles: the first makes a version, the second cannot be
converted, the third is like it and the fourth goes back to the first Caddyfile, while the push of
the first cycle is still going on. -/
def thereAndBack : List Step :=
  [.generated ⟨"a", ["s"]⟩, .converted (.ok (.bool false)), .push ⟨0, 0, .ask⟩,
    .generated ⟨"b", ["s"]⟩, .push ⟨0, 0, .send⟩, .converted (.error default),
    .generated ⟨"b", ["s"]⟩, .push ⟨1, 0, .ask⟩, .generated ⟨"a", ["s"]⟩, .push ⟨0, 0, .record⟩,
    .converted (.ok (.bool true)), .push ⟨0, 0, .release⟩, .push ⟨2, 0, .ask⟩,
    .push ⟨2, 0, .send⟩, .push ⟨2, 0, .record⟩, .generated ⟨"a", ["s", "t"]⟩]

def afterThereAndBack : Loop := (run? step? {} thereAndBack).getD {}

example : (afterThereAndBack.versions.number, afterThereAndBack.dispatch.loads) =
    (2, [⟨"s", 1, .bool false⟩, ⟨"s", 2, .bool true⟩]) := rfl

theorem versions_exact_thereAndBack :
    run? step? {} thereAndBack = some afterThereAndBack ∧
      afterThereAndBack.versions.number = [Json.bool false, .bool true].length ∧
      afterThereAndBack.versions.config = some (.bool true) ∧
      (∀ x ∈ afterThereAndBack.dispatch.loads,
        [Json.bool false, .bool true][x.version - 1]? = some x.config) ∧
      afterThereAndBack.EndsCycle (.generated ⟨"a", []⟩) 2 (some (.bool true)) := by
  have hrun : run? step? {} thereAndBack = some afterThereAndBack := rfl
  obtain ⟨hcycle, -, -, hnumber, -, hconfig, hloads, -⟩ := versions_exact hrun
  exact ⟨hrun, hnumber, hconfig, fun x hx => (hloads x hx).2.2, hcycle ⟨"a", []⟩ rfl⟩

/-- What the controller does with what a cycle has generated is a run, at the end of which no
conversion is awaited. -/
theorem exists_run?_finishCycle (idle : l.converting = none) (convert : Caddyfile.Validator Json)
    (g : Fleet.Generated) : ∃ taken, run? step? l taken = some (l.finishCycle convert g) ∧
      (l.finishCycle convert g).converting = none := by
  by_cases hsame : l.versions.last = some g.caddyfile
  · refine ⟨[.generated g], ?_, converting_finishCycle idle convert⟩
    rw [run?_singleton, step?, generated?_of_same idle hsame, finishCycle_of_same idle hsame]
  · refine ⟨[.generated g, .converted (convert g.caddyfile)], ?_, converting_finishCycle idle convert⟩
    rw [run?_cons, step?, generated?_of_ne idle hsame, Option.bind_some, run?_singleton]
    exact finishCycle_of_ne idle hsame convert

end ProxyFleet.Control.Loop
