import ProxyFleet.Proofs.Fleet.Related

/-!
What is kept from one cycle to the next does not show while nothing changes. A group that was found
is found again, one that was not is looked for in vain again, and whether it is remembered or asked
again which engines are nodes of a swarm, the answer is the same.
-/

namespace ProxyFleet.Fleet

/-- The own container, as it is remembered or else found. -/
def ownContainer (s : Surroundings) (m : Memory) : Except Failure String :=
  match m.own with
  | some id => .ok id
  | none => s.own

/-- A group is looked for only if it is not known. -/
theorem value_settleGroup (known : Option NetworkGroup) (group : String) (names : List String)
    (own : Except Failure String) (engines : List Numbered) :
    (settleGroup known group names own engines).value =
      known.or
        ((findMembers group names own engines).value.toOption.map (NetworkGroup.mk group)) := by
  cases known with
  | some g => rfl
  | none =>
    simp only [settleGroup, Journaled.value_bind]
    cases (findMembers group names own engines).value <;> rfl

theorem settled_eq (o : Options) (s : Surroundings) (m : Memory) :
    settled o s m = ((ownContainer s m).toOption,
      ⟨(settleGroup m.groups.ingress "ingress" o.ingressNetworks (ownContainer s m)
          s.engines.zipIdx).value,
        (settleGroup m.groups.controller "controller" o.controllerNetwork.toList (ownContainer s m)
          s.engines.zipIdx).value⟩) := rfl

/-- What was remembered of the own container is found again. -/
theorem ownContainer_toOption (s : Surroundings) {m m' : Memory}
    (h : m'.own = (ownContainer s m).toOption) : ownContainer s m' = ownContainer s m := by
  simp only [ownContainer] at h ⊢
  cases hm : m.own with
  | some id =>
    rw [hm] at h
    rw [h]
    rfl
  | none =>
    rw [hm] at h
    rw [h]
    cases s.own <;> rfl

theorem value_settleGroup_again {known : Option NetworkGroup} {group : String}
    {names : List String} {own : Except Failure String} {engines : List Numbered} :
    (settleGroup (settleGroup known group names own engines).value group names own engines).value =
      (settleGroup known group names own engines).value := by
  rw [value_settleGroup, value_settleGroup, Option.or_assoc, Option.or_self]

/-- A cycle leaves a memory by which the next one goes by the same networks. -/
theorem settled_again {o : Options} {s : Surroundings} {m m' : Memory}
    (hown : m'.own = (settled o s m).1) (hgroups : m'.groups = (settled o s m).2) :
    settled o s m' = settled o s m := by
  rw [settled_eq] at hown hgroups
  rw [settled_eq, settled_eq, ownContainer_toOption s hown, hgroups, value_settleGroup_again,
    value_settleGroup_again]

def activeNodes (s : Surroundings) : List Bool :=
  s.engines.zipIdx.map fun e => isActive (e.1 .info)

/-- The memory `m'` is as good as `m`: it leads to the same networks, and what is remembered of the
swarm is so. -/
structure Recalls (o : Options) (s : Surroundings) (m m' : Memory) : Prop where
  settled : settled o s m' = settled o s m
  nodes : ∀ known ∈ m'.swarm, known.2 = activeNodes s

theorem recalls_refl {o : Options} {s : Surroundings} {m : Memory} (h : m.swarm = none) :
    Recalls o s m m := ⟨rfl, by simp [h]⟩

namespace Recalls

variable {o : Options} {s : Surroundings} {m m' : Memory} (h : Recalls o s m m') (now : Nat)
include h

theorem swarmKnown_eq : (swarmKnown { s with now } m').2 = activeNodes s := by
  simp only [swarmKnown, value_swarmNodes]
  split
  · next checked nodes hknown =>
    split
    · exact h.nodes _ hknown
    · rfl
  · rfl

theorem settled_eq : Fleet.settled o { s with now } m' = Fleet.settled o s m := h.settled

theorem cycleShares_eq :
    cycleShares o { s with now } m' = allShares o s (Fleet.settled o s m).2 (activeNodes s) := by
  rw [cycleShares, h.swarmKnown_eq, h.settled_eq]
  rfl

theorem generated_eq {α : Type} (hm : m.swarm = none) (validate : Caddyfile.Validator α) :
    (cycle o validate { s with now } m').value.1 = (cycle o validate s m).value.1 := by
  have hfirst := (recalls_refl (o := o) (s := s) hm).cycleShares_eq s.now
  rw [value_cycle, value_cycle, h.cycleShares_eq, ← hfirst]

/-- A cycle leaves a memory that is as good. -/
theorem cycle {α : Type} (validate : Caddyfile.Validator α) :
    Recalls o s m (Fleet.cycle o validate { s with now } m').value.2 := by
  have hsettled := h.settled_eq now
  rw [value_cycle]
  refine ⟨settled_again (congrArg Prod.fst hsettled) (congrArg Prod.snd hsettled), ?_⟩
  rintro known hknown
  obtain rfl := Option.some.inj hknown
  exact h.swarmKnown_eq now

end Recalls

/-- While nothing changes, every cycle generates what the first one does. -/
theorem eq_of_mem_generated {α : Type} {o : Options} {validate : Caddyfile.Validator α}
    {s : Surroundings} {m m' : Memory} (hm : m.swarm = none) (h : Recalls o s m m')
    (times : List Nat) :
    ∀ g ∈ generated o validate m' (times.map fun now => { s with now }),
      g = (cycle o validate s m).value.1 := by
  induction times generalizing m' with
  | nil => exact nofun
  | cons now times ih =>
    rw [List.map_cons, generated]
    exact List.forall_mem_cons.2 ⟨h.generated_eq now hm validate, ih (h.cycle now validate)⟩

end ProxyFleet.Fleet
