import Mathlib.Data.List.Perm.Subperm
import ProxyFleet.Control.Controller
import ProxyFleet.Engine.Inventory
import ProxyFleet.Proofs.Control.Versioned
import ProxyFleet.Proofs.Fleet.Recall

/-!
The control loop while nothing changes around it. Its cycles go on, each at its own time and with
what the ones before remember; but all of them generate the same, so there is no version but the one
of the first cycle, and no server loads anything twice.
-/

namespace ProxyFleet.Control

namespace Loop

variable {l m : Loop} {x : Step} {trace : List Step} {g : Fleet.Generated}

@[simp] theorem acknowledged_deliver (l : Loop) (change : Change) (servers : List String) :
    (l.deliver change servers).dispatch.acknowledged = l.dispatch.acknowledged := by
  unfold deliver
  split <;> rfl

def Acknowledges (trace : List Step) (l : Loop) : Prop :=
  ∀ u ∈ l.dispatch.acknowledged, 0 < u.version ∧ u.version ≤ (results trace).length

theorem acknowledges_new : Acknowledges [] {} := by
  intro u hu
  cases hu

theorem Acknowledges.concat (h : Acknowledges trace l) (x : Step) :
    Acknowledges (trace ++ [x]) l := by
  intro u hu
  rw [results_concat, List.length_append]
  exact ⟨(h u hu).1, Nat.le_add_right_of_le (h u hu).2⟩

theorem Acknowledges.takes (h : Acknowledges trace l) (hl : Versioned trace l)
    (hs : Takes l x m) : Acknowledges (trace ++ [x]) m := by
  cases hs with
  | unchanged | accepted =>
    intro u hu
    rw [acknowledged_deliver] at hu
    exact h.concat _ u hu
  | changed | rejected => exact h.concat _
  | @push y dispatch taken =>
    obtain ⟨load, p, p', before, after, -, hm, hpushes, -⟩ :=
      Delivery.Dispatch.takes_of_step? taken
    intro u hu
    rw [hm.acknowledged_eq] at hu
    rcases List.mem_append.1 hu with hu | hu
    · exact h.concat _ u hu
    · split at hu
      · obtain rfl := List.mem_singleton.1 hu
        have hmem : (load, p) ∈ l.dispatch.pushes := by simp [hpushes]
        obtain ⟨hpos, hconfig⟩ := hl.pushes_concat (.push y) (load, p) hmem
        obtain ⟨hlt, -⟩ := List.getElem?_eq_some_iff.1 hconfig
        exact ⟨hpos, Nat.le_of_pred_lt hlt⟩
      · cases hu

theorem version_of_acknowledged (h : run? step? {} trace = some l) :
    ∀ u ∈ l.dispatch.acknowledged, 0 < u.version ∧ u.version ≤ l.versions.number := by
  rw [(versioned_of_run h).number]
  exact run?_induction (P := Acknowledges) acknowledges_new
    (fun hr ih hs => ih.takes (versioned_of_run hr) (takes_of_step? hs)) h

/-- A server acknowledges no version twice. -/
theorem length_versionsOf_le (h : run? step? {} trace = some l) (server : String) :
    (l.dispatch.versionsOf server).length ≤ l.versions.number := by
  obtain ⟨events, hevents⟩ := exists_happen?_of_run h
  have hincreasing :=
    (Delivery.Dispatch.agrees_of_run Delivery.Ledger.agrees_nil hevents).increasing server
  have hsub : l.dispatch.versionsOf server ⊆ List.range' 1 l.versions.number := by
    intro n hn
    obtain ⟨u, hu, rfl⟩ := List.mem_map.1 hn
    obtain ⟨hpos, hle⟩ := version_of_acknowledged h u (List.mem_filter.1 hu).1
    rw [List.mem_range'_1]
    omega
  have hnodup : (l.dispatch.versionsOf server).Nodup := hincreasing.imp Nat.ne_of_lt
  simpa using (List.subperm_of_subset hnodup hsub).length_le

def firstVersions (convert : Caddyfile.Validator Json) (g : Fleet.Generated) : Versions :=
  ((({} : Versions).note g.caddyfile).2.conclude (convert g.caddyfile)).2

theorem last_firstVersions (convert : Caddyfile.Validator Json) (g : Fleet.Generated) :
    (firstVersions convert g).last = some g.caddyfile := by
  unfold firstVersions
  cases convert g.caddyfile <;> rfl

theorem number_firstVersions_le (convert : Caddyfile.Validator Json) (g : Fleet.Generated) :
    (firstVersions convert g).number ≤ 1 := by
  unfold firstVersions
  cases convert g.caddyfile <;> simp [Versions.conclude, Versions.note]

/-- Cycles have generated this and nothing else, if anything. -/
inductive Quiet (convert : Caddyfile.Validator Json) (g : Fleet.Generated) (l : Loop) : Prop
  | fresh (idle : l.converting = none) (versions : l.versions = {})
  | awaiting (awaited : l.converting = some g)
    (versions : l.versions = { last := some g.caddyfile })
  | done (idle : l.converting = none) (versions : l.versions = firstVersions convert g)

namespace Quiet

variable {convert : Caddyfile.Validator Json}

theorem number_le (h : Quiet convert g l) : l.versions.number ≤ 1 := by
  cases h with
  | fresh _ versions | awaiting _ versions => simp [versions]
  | done _ versions =>
    rw [versions]
    exact number_firstVersions_le convert g

theorem eq_of_converting {g' : Fleet.Generated} (h : Quiet convert g l)
    (awaited : l.converting = some g') : g' = g ∧ l.versions = { last := some g.caddyfile } := by
  cases h with
  | fresh idle | done idle =>
    rw [idle] at awaited
    cases awaited
  | awaiting awaited' versions =>
    rw [awaited'] at awaited
    exact ⟨(Option.some.inj awaited).symm, versions⟩

theorem eq_firstVersions (h : Quiet convert g l) (idle : l.converting = none)
    (known : l.versions.last = some g.caddyfile) : l.versions = firstVersions convert g := by
  cases h with
  | fresh _ versions =>
    rw [versions] at known
    cases known
  | awaiting awaited =>
    rw [idle] at awaited
    cases awaited
  | done _ versions => exact versions

/-- The first cycle awaits its conversion, later ones find the Caddyfile unchanged. -/
theorem generated (h : Quiet convert g l) (hs : l.step? (.generated g) = some m) :
    Quiet convert g m ∧ m.versions.last = some g.caddyfile := by
  cases takes_of_step? hs with
  | unchanged idle same =>
    cases h with
    | fresh _ versions =>
      rw [versions] at same
      cases same
    | awaiting awaited =>
      rw [idle] at awaited
      cases awaited
    | done _ versions =>
      exact ⟨.done (by simpa using idle) (by simpa using versions), by simpa using same⟩
  | changed idle differs =>
    cases h with
    | fresh _ versions => exact ⟨.awaiting rfl (by rw [versions]), rfl⟩
    | awaiting awaited =>
      rw [idle] at awaited
      cases awaited
    | done _ versions =>
      rw [versions, last_firstVersions] at differs
      exact absurd rfl differs

theorem converted (h : Quiet convert g l)
    (hs : l.step? (.converted (convert g.caddyfile)) = some m) :
    Quiet convert g m ∧ m.versions.last = some g.caddyfile := by
  have hdone : m.converting = none ∧ m.versions = firstVersions convert g := by
    unfold firstVersions
    generalize convert g.caddyfile = outcome at hs
    cases takes_of_step? hs with
    | accepted awaited | rejected awaited =>
      obtain ⟨-, hversions⟩ := h.eq_of_converting awaited
      simp [hversions, Versions.note, Versions.conclude]
  exact ⟨.done hdone.1 hdone.2, by rw [hdone.2, last_firstVersions]⟩

theorem push {y : Delivery.Step} (h : Quiet convert g l) (hs : l.step? (.push y) = some m) :
    Quiet convert g m := by
  obtain ⟨hversions, hconverting⟩ := of_step?_push hs
  cases h with
  | fresh idle versions => exact .fresh (hconverting.trans idle) (hversions.trans versions)
  | awaiting awaited versions =>
    exact .awaiting (hconverting.trans awaited) (hversions.trans versions)
  | done idle versions => exact .done (hconverting.trans idle) (hversions.trans versions)

end Quiet

end Loop

structure Running where
  memory : Fleet.Memory := {}
  loop : Loop := {}

namespace Running

inductive Step where
  /-- A cycle at this time. -/
  | cycle (now : Nat)
  /-- The conversion that was awaited ends. -/
  | converted
  | push (step : Delivery.Step)

section

variable {α : Type} (o : Fleet.Options) (validate : Caddyfile.Validator α)
  (convert : Caddyfile.Validator Json) (s : Fleet.Surroundings)

/-- One step in surroundings that do not change, if it can be taken. -/
def step? (r : Running) : Step → Option Running
  | .cycle now =>
    let (generated, memory) := (Fleet.cycle o validate { s with now } r.memory).value
    (r.loop.step? (.generated generated)).map fun loop => ⟨memory, loop⟩
  | .converted =>
    r.loop.converting.bind fun g =>
      (r.loop.step? (.converted (convert g.caddyfile))).map fun loop => { r with loop }
  | .push step => (r.loop.step? (.push step)).map fun loop => { r with loop }

def first (m : Fleet.Memory) : Fleet.Generated := (Fleet.cycle o validate s m).value.1

variable {o validate convert s} {m : Fleet.Memory} {trace : List Step} {r t : Running}

structure Steady (o : Fleet.Options) (validate : Caddyfile.Validator α)
    (convert : Caddyfile.Validator Json) (s : Fleet.Surroundings) (m : Fleet.Memory)
    (trace : List Step) (r : Running) : Prop where
  memory : Fleet.Recalls o s m r.memory
  loop : Loop.Quiet convert (first o validate s m) r.loop
  /-- Once there was a cycle, the loop knows its Caddyfile. -/
  begun : ∀ now, .cycle now ∈ trace →
    r.loop.versions.last = some (first o validate s m).caddyfile
  /-- The loop by itself has come to this state. -/
  ran : ∃ steps, run? Loop.step? {} steps = some r.loop

theorem steady_new (hm : m.swarm = none) : Steady o validate convert s m [] ⟨m, {}⟩ :=
  ⟨Fleet.recalls_refl hm, .fresh rfl rfl, nofun, [], rfl⟩

theorem Steady.step? (hm : m.swarm = none) (h : Steady o validate convert s m trace r) {x : Step}
    (hs : r.step? o validate convert s x = some t) :
    Steady o validate convert s m (trace ++ [x]) t := by
  obtain ⟨steps, hran⟩ := h.ran
  cases x with
  | cycle now =>
    simp only [Running.step?, Option.map_eq_some_iff] at hs
    obtain ⟨loop, hloop, rfl⟩ := hs
    -- Whatever is remembered and whatever the time is, it is the first cycle over again.
    rw [h.memory.generated_eq now hm validate] at hloop
    obtain ⟨hquiet, hlast⟩ := h.loop.generated hloop
    exact ⟨h.memory.cycle now validate, hquiet, fun _ _ => hlast, _, run?_concat.2 ⟨_, hran, hloop⟩⟩
  | converted =>
    simp only [Running.step?, Option.bind_eq_some_iff, Option.map_eq_some_iff] at hs
    obtain ⟨g, awaited, loop, hloop, rfl⟩ := hs
    obtain ⟨rfl, -⟩ := h.loop.eq_of_converting awaited
    obtain ⟨hquiet, hlast⟩ := h.loop.converted hloop
    exact ⟨h.memory, hquiet, fun _ _ => hlast, _, run?_concat.2 ⟨_, hran, hloop⟩⟩
  | push y =>
    simp only [Running.step?, Option.map_eq_some_iff] at hs
    obtain ⟨loop, hloop, rfl⟩ := hs
    refine ⟨h.memory, h.loop.push hloop, fun now hnow => ?_, _, run?_concat.2 ⟨_, hran, hloop⟩⟩
    rw [(Loop.of_step?_push hloop).1]
    exact h.begun now (by simpa using hnow)

theorem steady_of_run (hm : m.swarm = none)
    (h : run? (step? o validate convert s) ⟨m, {}⟩ trace = some r) :
    Steady o validate convert s m trace r :=
  run?_induction (P := Steady o validate convert s m) (steady_new hm)
    (fun _ ih hs => ih.step? hm hs) h

/-- No cycle has to wait but for a conversion, and no conversion for anything. -/
theorem isSome_step?_cycle (idle : r.loop.converting = none) (now : Nat) :
    (r.step? o validate convert s (.cycle now)).isSome = true := by
  rw [Running.step?, Option.isSome_map, Loop.step?, Option.isSome_iff_ne_none]
  intro hnone
  rw [Loop.generated?_eq_none_iff, idle] at hnone
  cases hnone

theorem isSome_step?_converted (awaited : r.loop.converting.isSome = true) :
    (r.step? o validate convert s .converted).isSome = true := by
  obtain ⟨g, hg⟩ := Option.isSome_iff_exists.1 awaited
  rw [Running.step?, hg, Option.bind_some, Option.isSome_map, Loop.step?,
    Option.isSome_iff_ne_none]
  intro hnone
  rw [Loop.converted?_eq_none_iff, hg] at hnone
  cases hnone

end

/-- While nothing changes, whatever the times of the cycles are and whatever pushes do in between:
every cycle generates what the first one does, when the first cycle is over the version stays as it
is, and no server acknowledges more than one load. Cycles can always go on. -/
theorem quiescent {α : Type} (o : Fleet.Options) (validate : Caddyfile.Validator α)
    (convert : Caddyfile.Validator Json) (s : Fleet.Surroundings) {m : Fleet.Memory}
    (hm : m.swarm = none) :
    (∀ times : List Nat, ∀ g ∈ Fleet.generated o validate m (times.map fun now => { s with now }),
      g = first o validate s m) ∧
    ∀ trace r, run? (step? o validate convert s) ⟨m, {}⟩ trace = some r →
      (∀ now, (Fleet.cycle o validate { s with now } r.memory).value.1 = first o validate s m) ∧
      (∀ now, .cycle now ∈ trace → r.loop.converting = none →
        r.loop.versions = Loop.firstVersions convert (first o validate s m)) ∧
      (∀ server, (r.loop.dispatch.versionsOf server).length ≤ 1) ∧
      (r.loop.converting = none →
        ∀ now, (r.step? o validate convert s (.cycle now)).isSome = true) ∧
      (r.loop.converting.isSome = true →
        (r.step? o validate convert s .converted).isSome = true) := by
  constructor
  · exact fun times => Fleet.eq_of_mem_generated hm (Fleet.recalls_refl hm) times
  · intro trace r hrun
    have h := steady_of_run hm hrun
    refine ⟨fun now => h.memory.generated_eq now hm validate, fun now hnow idle => ?_,
      fun server => ?_, isSome_step?_cycle, isSome_step?_converted⟩
    · exact h.loop.eq_firstVersions idle (h.begun now hnow)
    · obtain ⟨steps, hran⟩ := h.ran
      exact Nat.le_trans (Loop.length_versionsOf_le hran server) h.loop.number_le

def oneSite : Fleet.Surroundings :=
  { engines := [Engine.Inventory.answers { containers := [
      { id := "w", labels := Keyed.ofList [("caddy", "a.example"), ("caddy.respond", "ok")] }] }],
    own := .ok "controller" }

/-- Two cycles, so far apart that it is asked again which engines are nodes of a swarm. The second
begins while the push of the first goes on. -/
def twoCycles : List Step :=
  [.cycle 0, .converted, .push ⟨0, 0, .ask⟩, .push ⟨0, 0, .send⟩, .cycle 70000,
    .push ⟨0, 0, .record⟩, .push ⟨1, 0, .ask⟩, .push ⟨0, 0, .release⟩]

def afterTwoCycles : Running :=
  (run? (step? {} (fun _ => Except.ok ()) (fun _ => .ok .null) oneSite) ⟨{}, {}⟩ twoCycles).get
    (by decide +kernel)

theorem quiescent_oneSite :
    run? (step? {} (fun _ => Except.ok ()) (fun _ => .ok .null) oneSite) ⟨{}, {}⟩ twoCycles =
        some afterTwoCycles ∧
      (∀ now, (Fleet.cycle {} (fun _ => Except.ok ()) { oneSite with now }
        afterTwoCycles.memory).value.1 = first {} (fun _ => Except.ok ()) oneSite {}) ∧
      afterTwoCycles.loop.versions.number = 1 ∧
      (afterTwoCycles.loop.dispatch.versionsOf "localhost").length = 1 := by
  have hrun : run? (step? {} (fun _ => Except.ok ()) (fun _ => .ok .null) oneSite) ⟨{}, {}⟩
      twoCycles = some afterTwoCycles := (Option.some_get _).symm
  obtain ⟨-, hreached⟩ := quiescent {} (fun _ => Except.ok ()) (fun _ => .ok .null) oneSite
    (m := {}) rfl
  obtain ⟨hsame, hversions, -⟩ := hreached twoCycles afterTwoCycles hrun
  refine ⟨hrun, hsame, ?_, by decide +kernel⟩
  rw [hversions 0 (by simp [twoCycles]) (by decide +kernel)]
  rfl

def ofController (c : Controller) : Running := ⟨c.memory, ⟨c.versions, c.dispatch, none⟩⟩

/-- A cycle of the controller, which is not interrupted, is a run of these steps. -/
theorem exists_run?_cycle {α : Type} (o : Fleet.Options) (validate : Caddyfile.Validator α)
    (convert : Caddyfile.Validator Json) (s : Fleet.Surroundings) (c : Controller) (now : Nat) :
    ∃ taken, run? (step? o validate convert s) (ofController c) taken =
      some (ofController (c.cycle o validate convert { s with now }).value) := by
  obtain ⟨⟨g, memory⟩, hcycle⟩ : ∃ result,
    (Fleet.cycle o validate { s with now } c.memory).value = result := ⟨_, rfl⟩
  have hbegun : (ofController c).step? o validate convert s (.cycle now) =
      ((ofController c).loop.generated? g).map fun loop => ⟨memory, loop⟩ := by
    simp only [step?, ofController, hcycle, Loop.step?]
  have hover : ofController (c.cycle o validate convert { s with now }).value =
      ⟨memory, (ofController c).loop.finishCycle convert g⟩ := by
    have hidle : ((ofController c).loop.finishCycle convert g).converting = none :=
      Loop.converting_finishCycle rfl convert
    simp only [Controller.cycle, Fleet.Journaled.value_bind, Fleet.Journaled.value_pure, hcycle]
    exact congrArg (Running.mk memory) (Loop.ext rfl rfl hidle.symm)
  rw [hover]
  by_cases hsame : c.versions.last = some g.caddyfile
  · refine ⟨[.cycle now], ?_⟩
    rw [run?_singleton, hbegun, Loop.generated?_of_same rfl hsame, Option.map_some,
      Loop.finishCycle_of_same rfl hsame]
  · refine ⟨[.cycle now, .converted], ?_⟩
    rw [run?_cons, hbegun, Loop.generated?_of_ne rfl hsame, Option.map_some, Option.bind_some,
      run?_singleton, step?, Option.bind_some, Loop.step?]
    exact congrArg _ (Loop.finishCycle_of_ne rfl hsame convert)

end Running

end ProxyFleet.Control
