import ProxyFleet.Control.Versions
import ProxyFleet.Fleet.Cycle

/-!
The control loop and the deliveries that it has begun. A cycle generates a Caddyfile and, if it has
changed, has it converted; then it delivers. Pushes go on at any time, also while a conversion is
awaited.
-/

namespace ProxyFleet.Control

@[ext] structure Loop where
  versions : Versions := {}
  dispatch : Delivery.Dispatch := {}
  /-- What was generated, while its conversion is awaited. -/
  converting : Option Fleet.Generated := none
deriving Inhabited

namespace Loop

inductive Step where
  /-- A cycle has generated a Caddyfile. -/
  | generated (g : Fleet.Generated)
  /-- The conversion that was awaited has ended. -/
  | converted (outcome : Except Failure Json)
  | push (step : Delivery.Step)

/-- Begins a rollout of the version, if there is one to deliver. -/
def deliver (l : Loop) (change : Change) (servers : List String) : Loop :=
  match l.versions.rollout? change servers with
  | some rollout => { l with dispatch := l.dispatch.add rollout }
  | none => l

def generated? (l : Loop) (g : Fleet.Generated) : Option Loop :=
  match l.converting with
  | some _ => none
  | none =>
    match l.versions.note g.caddyfile with
    | (true, versions) => some { l with versions, converting := some g }
    | (false, versions) => some ({ l with versions }.deliver .same g.servers)

def converted? (l : Loop) (outcome : Except Failure Json) : Option Loop :=
  match l.converting with
  | some g =>
    let (change, versions) := l.versions.conclude outcome
    some ({ l with versions, converting := none }.deliver change g.servers)
  | none => none

/-- One step, if it can be taken. -/
def step? (l : Loop) : Step → Option Loop
  | .generated g => l.generated? g
  | .converted outcome => l.converted? outcome
  | .push step => (l.dispatch.step? step).map fun dispatch => { l with dispatch }

/-- Takes those of the steps that can be taken. -/
def steps (l : Loop) (ss : List Step) : Loop := ss.foldl (fun l s => (l.step? s).getD l) l

/-- The rest of a cycle that has generated a Caddyfile, without being interrupted. -/
def finishCycle (l : Loop) (convert : Caddyfile.Validator Json) (g : Fleet.Generated) : Loop :=
  l.steps [.generated g, .converted (convert g.caddyfile)]

@[simp] theorem versions_deliver (l : Loop) (change : Change) (servers : List String) :
    (l.deliver change servers).versions = l.versions := by
  unfold deliver
  split <;> rfl

theorem dispatch_deliver (l : Loop) (change : Change) (servers : List String) :
    (l.deliver change servers).dispatch = l.dispatch ∨
      ∃ config, l.versions.config = some config ∧ (l.deliver change servers).dispatch =
        l.dispatch.add (.new l.versions.number config servers) := by
  unfold deliver
  split
  · next rollout h =>
    right
    unfold Versions.rollout? at h
    split at h
    · cases h
    · cases h
    · next config _ hconfig =>
      cases h
      exact ⟨config, hconfig, rfl⟩
  · exact .inl rfl

@[simp] theorem converting_deliver (l : Loop) (change : Change) (servers : List String) :
    (l.deliver change servers).converting = l.converting := by
  unfold deliver
  split <;> rfl

section

variable {l : Loop} {g : Fleet.Generated} {outcome : Except Failure Json}

theorem generated?_of_same (idle : l.converting = none)
    (same : l.versions.last = some g.caddyfile) :
    l.generated? g = some (l.deliver .same g.servers) := by
  obtain ⟨⟨last, config, number⟩, dispatch, converting⟩ := l
  subst idle same
  simp [generated?, Versions.note]

theorem generated?_of_ne (idle : l.converting = none)
    (differs : l.versions.last ≠ some g.caddyfile) :
    l.generated? g = some { l with
      versions := { l.versions with last := some g.caddyfile }, converting := some g } := by
  simp [generated?, Versions.note, idle, differs]

theorem converted?_ok {config : Json} (awaited : l.converting = some g) :
    l.converted? (.ok config) = some (deliver { l with
      versions := { l.versions with config := some config, number := l.versions.number + 1 },
      converting := none } .accepted g.servers) := by
  simp [converted?, awaited, Versions.conclude]

theorem converted?_error {failure : Failure} (awaited : l.converting = some g) :
    l.converted? (.error failure) = some { l with converting := none } := by
  simp [converted?, awaited, Versions.conclude, deliver, Versions.rollout?]

theorem generated?_eq_none_iff : l.generated? g = none ↔ l.converting.isSome = true := by
  cases hc : l.converting with
  | none =>
    by_cases hsame : l.versions.last = some g.caddyfile
    · simp [generated?_of_same hc hsame]
    · simp [generated?_of_ne hc hsame]
  | some awaited => simp [generated?, hc]

theorem converted?_eq_none_iff : l.converted? outcome = none ↔ l.converting = none := by
  cases hc : l.converting with
  | none => simp [converted?, hc]
  | some awaited => simp [converted?, hc]

theorem converting_of_converted? {m : Loop} (h : l.converted? outcome = some m) :
    m.converting = none := by
  unfold converted? at h
  split at h
  · cases h
    simp
  · cases h

/-- There is nothing to convert if the Caddyfile has not changed. -/
theorem finishCycle_of_same (idle : l.converting = none)
    (same : l.versions.last = some g.caddyfile) (convert : Caddyfile.Validator Json) :
    l.finishCycle convert g = l.deliver .same g.servers := by
  have hover : (l.deliver .same g.servers).converted? (convert g.caddyfile) = none :=
    converted?_eq_none_iff.2 (by rw [converting_deliver, idle])
  simp [finishCycle, steps, step?, generated?_of_same idle same, hover]

theorem finishCycle_of_ne (idle : l.converting = none)
    (differs : l.versions.last ≠ some g.caddyfile) (convert : Caddyfile.Validator Json) :
    converted? { l with
      versions := { l.versions with last := some g.caddyfile }, converting := some g }
      (convert g.caddyfile) = some (l.finishCycle convert g) := by
  have hsome : (converted? { l with
      versions := { l.versions with last := some g.caddyfile }, converting := some g }
      (convert g.caddyfile)).isSome = true := by simp [converted?]
  obtain ⟨m, hm⟩ := Option.isSome_iff_exists.1 hsome
  simp [finishCycle, steps, step?, generated?_of_ne idle differs, hm]

/-- When a cycle is over, no conversion is awaited. -/
theorem converting_finishCycle (idle : l.converting = none) (convert : Caddyfile.Validator Json) :
    (l.finishCycle convert g).converting = none := by
  by_cases hsame : l.versions.last = some g.caddyfile
  · rw [finishCycle_of_same idle hsame, converting_deliver, idle]
  · exact converting_of_converted? (finishCycle_of_ne idle hsame convert)

end

end Loop

end ProxyFleet.Control
