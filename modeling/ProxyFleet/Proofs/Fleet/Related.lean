import Mathlib.Data.List.Forall2
import ProxyFleet.Proofs.Fleet.Shares

/-!
Cycles in surroundings that differ only in what the engines answer. What a cycle makes of the two is
the same if it makes the same of the answers one by one: of those about networks, of those that tell
the nodes of a swarm, and of those from which an engine's shares come.
-/

namespace ProxyFleet.Fleet

open Engine (Answers Query Service Task)

section Numbered

variable {α β : Type} {as as' : List α}

theorem map_zipIdx_congr {f g : α × Nat → β} (hlen : as.length = as'.length)
    (h : ∀ i a a', as[i]? = some a → as'[i]? = some a' → f (a, i) = g (a', i)) :
    as.zipIdx.map f = as'.zipIdx.map g := by
  apply List.ext_getElem (by simp [hlen])
  intro i hi hi'
  simp only [List.length_map, List.length_zipIdx] at hi hi'
  simpa using h i _ _ (List.getElem?_eq_getElem hi) (List.getElem?_eq_getElem hi')

theorem forall₂_zipIdx_zip {γ : Type} {R : (α × Nat) × γ → (α × Nat) × γ → Prop}
    (hlen : as.length = as'.length) (bs : List γ)
    (h : ∀ i a a' b, as[i]? = some a → as'[i]? = some a' → bs[i]? = some b →
      R ((a, i), b) ((a', i), b)) :
    List.Forall₂ R (as.zipIdx.zip bs) (as'.zipIdx.zip bs) := by
  refine List.forall₂_iff_get.2 ⟨by simp [hlen], fun i hi hi' => ?_⟩
  simp only [List.length_zip, List.length_zipIdx, Nat.lt_min] at hi hi'
  simpa using h i _ _ _ (List.getElem?_eq_getElem hi.1) (List.getElem?_eq_getElem hi'.1)
    (List.getElem?_eq_getElem hi.2)

theorem map_zipIdx_zip_congr {γ : Type} {f g : (α × Nat) × γ → β} (hlen : as.length = as'.length)
    (bs : List γ)
    (h : ∀ i a a' b, as[i]? = some a → as'[i]? = some a' → bs[i]? = some b →
      f ((a, i), b) = g ((a', i), b)) :
    (as.zipIdx.zip bs).map f = (as'.zipIdx.zip bs).map g := by
  rw [← List.forall₂_eq_eq_eq, List.forall₂_map_left_iff, List.forall₂_map_right_iff]
  exact forall₂_zipIdx_zip hlen bs h

end Numbered

/-- How the answers of two engines with the same number to a question compare. -/
abbrev Comparison : Type :=
  Nat → (q : Query) → Except Failure q.Answer → Except Failure q.Answer → Prop

/-- The same but for the engines' answers, of which `R` holds. -/
structure Surroundings.Related (R : Comparison) (s s' : Surroundings) : Prop where
  own : s.own = s'.own
  base : s.base = s'.base
  now : s.now = s'.now
  length : s.engines.length = s'.engines.length
  answers : ∀ i e e', s.engines[i]? = some e → s'.engines[i]? = some e' → ∀ q, R i q (e q) (e' q)

def Surroundings.AgreeOn (heard : Nat → Query → Prop) (s s' : Surroundings) : Prop :=
  s.Related (fun i q x y => heard i q → x = y) s'

namespace Surroundings.Related

variable {R R' : Comparison} {s s' : Surroundings}

theorem mono (hR : ∀ i q x y, R i q x y → R' i q x y) (h : s.Related R s') :
    s.Related R' s' := by
  refine ⟨h.own, h.base, h.now, h.length, ?_⟩
  intro i e e' he he' q
  exact hR i q _ _ (h.answers i e e' he he' q)

end Surroundings.Related

def Surroundings.change (s : Surroundings) (i : Nat) (f : Answers → Answers) : Surroundings :=
  { s with engines := s.engines.modify i f }

theorem Surroundings.related_change {R : Comparison} (hrefl : ∀ j q x, R j q x x)
    (s : Surroundings) (i : Nat) (f : Answers → Answers)
    (h : ∀ e, s.engines[i]? = some e → ∀ q, R i q (e q) (f e q)) : s.Related R (s.change i f) where
  own := rfl
  base := rfl
  now := rfl
  length := (List.length_modify ..).symm
  answers j e e' he he' q := by
    simp only [change, List.getElem?_modify, he, Option.map_eq_map, Option.map_some,
      Option.some.injEq] at he'
    subst he'
    split
    · next hi =>
      subst hi
      exact h e he q
    · exact hrefl j q _

namespace Surroundings.AgreeOn

variable {heard heard' : Nat → Query → Prop} {s s' : Surroundings}

theorem anti (hsub : ∀ i q, heard' i q → heard i q) (h : s.AgreeOn heard s') :
    s.AgreeOn heard' s' := by
  apply Related.mono _ h
  intro i q x y hxy hq
  exact hxy (hsub i q hq)

theorem gather_eq {β : Type} {f : Numbered → Journaled (Except Failure (List β))}
    (h : s.AgreeOn heard s')
    (hf : ∀ e e' i, (∀ q, heard i q → e q = e' q) → (f (e, i)).value = (f (e', i)).value) :
    (Journaled.gather f s.engines.zipIdx).value =
      (Journaled.gather f s'.engines.zipIdx).value := by
  apply value_gather_congr
  apply map_zipIdx_congr h.length
  intro i e e' he he'
  exact hf e e' i (h.answers i e e' he he')

end Surroundings.AgreeOn

def tellsNetworks : Query → Prop
  | .container _ | .networks | .network _ => True
  | _ => False

theorem value_attachedTo_congr {id : String} {e e' : Answers} {i : Nat}
    (h : ∀ q, tellsNetworks q → e q = e' q) :
    (attachedTo id (e, i)).value = (attachedTo id (e', i)).value := by
  simp only [attachedTo, Journaled.value_bind, value_ask, h (.container id) trivial]
  split
  · rfl
  · refine value_gather_congr (List.map_congr_left fun a _ => ?_)
    simp only [Journaled.value_bind, value_ask, h (.network a.networkId) trivial]

theorem value_selectedOn_congr {group : String} {names : List String} {e e' : Answers} {i : Nat}
    (h : ∀ q, tellsNetworks q → e q = e' q) :
    (selectedOn group names (e, i)).value = (selectedOn group names (e', i)).value := by
  simp only [selectedOn, Journaled.value_bind, value_ask, h .networks trivial]

section Settled

variable {s s' : Surroundings} (h : s.AgreeOn (fun _ => tellsNetworks) s')
include h

theorem value_findMembers_congr (group : String) (names : List String)
    (own : Except Failure String) :
    (findMembers group names own s.engines.zipIdx).value =
      (findMembers group names own s'.engines.zipIdx).value := by
  unfold findMembers
  split
  · split
    · rfl
    · exact h.gather_eq fun _ _ _ => value_attachedTo_congr
  · exact h.gather_eq fun _ _ _ => value_selectedOn_congr

theorem value_settleGroup_congr (known : Option NetworkGroup) (group : String)
    (names : List String) (own : Except Failure String) :
    (settleGroup known group names own s.engines.zipIdx).value =
      (settleGroup known group names own s'.engines.zipIdx).value := by
  unfold settleGroup
  split
  · rfl
  · simp only [Journaled.value_bind, value_findMembers_congr h]

/-- The networks are those that the answers about networks tell. -/
theorem settled_congr (o : Options) (m : Memory) : settled o s m = settled o s' m := by
  simp only [settled, settle, Journaled.value_bind, Journaled.value_pure, h.own,
    value_settleGroup_congr h]

end Settled

/-- An engine that does not say so is not a node of a swarm. -/
def isActive : Except Failure Engine.Info → Bool
  | .ok info => info.isSwarmActive
  | .error _ => false

theorem value_isSwarmNode (e : Numbered) : (isSwarmNode e).value = isActive (e.1 .info) := by
  simp only [isSwarmNode, Journaled.value_bind, value_ask]
  cases e.1 .info <;> rfl

theorem value_swarmNodes (known : Option (Nat × List Bool)) (now : Nat) (engines : List Numbered) :
    (swarmNodes known now engines).value =
      match known with
      | some (checked, nodes) =>
        if now - checked ≤ swarmMemory then (checked, nodes)
        else (now, engines.map fun e => isActive (e.1 .info))
      | none => (now, engines.map fun e => isActive (e.1 .info)) := by
  cases known with
  | none => simp [swarmNodes, Journaled.value_mapM, value_isSwarmNode]
  | some known =>
    simp only [swarmNodes]
    split <;> simp [Journaled.value_mapM, value_isSwarmNode]

/-- The nodes of a swarm are the engines that say so. -/
theorem swarmKnown_congr {R : Comparison} {s s' : Surroundings} (h : s.Related R s')
    (hR : ∀ i x y, R i .info x y → isActive x = isActive y) (m : Memory) : swarmKnown s m = swarmKnown s' m := by
  have hnodes : (s.engines.zipIdx.map fun e => isActive (e.1 .info)) =
      s'.engines.zipIdx.map fun e => isActive (e.1 .info) :=
    map_zipIdx_congr h.length fun i e e' he he' => hR i _ _ (h.answers i e e' he he' .info)
  simp only [swarmKnown, value_swarmNodes, h.now, hnodes]

def tasksOf (engines : List Numbered) (service : String) : Except Failure (List Task) :=
  (Journaled.gather (fun e => ask e (.tasks service)) engines).value

theorem tasksOf_congr {s s' : Surroundings} {service : String}
    (h : s.AgreeOn (fun _ q => q = .tasks service) s') :
    tasksOf s.engines.zipIdx service = tasksOf s'.engines.zipIdx service :=
  h.gather_eq fun _ _ _ he => he _ rfl

section Workloads

variable {engines engines' : List Numbered} {o : Options} {group : Option NetworkGroup} {g : Groups}
  {sv : Service}

theorem value_findTasks :
    (findTasks engines group sv).value = (tasksOf engines sv.id).map fun tasks =>
      (tasks.filter Task.isRunning).flatMap (taskAddresses group) := by
  simp only [findTasks, tasksOf, Journaled.value_bind]
  cases (Journaled.gather (fun e => ask e (.tasks sv.id)) engines).value with
  | error failure => rfl
  | ok tasks =>
    simp only [Except.map]
    split
    · rfl
    · split <;> rfl

theorem value_findService (b : Bool) :
    (findService b engines group sv).value =
      if b then (findTasks engines group sv).value else .ok [sv.name] := by
  unfold findService
  cases b
  · cases isReachable group sv <;> rfl
  · rfl

theorem value_serviceBlocks :
    (serviceBlocks o engines g sv).value = elements (described o sv.labels sv.json
      (if mentionsUpstreams (configLabels o.labelPrefix sv.labels) then
        (findService o.proxyTasks engines g.ingress sv).value else .ok [])) := by
  simp only [serviceBlocks, Journaled.value_bind, value_orNoted, value_labelBlocks]

theorem value_serviceServers :
    (serviceServers o engines g sv).value =
      if sv.labels.contains o.serverLabel then elements (findTasks engines g.controller sv).value
      else [] := by
  simp only [serviceServers]
  split
  · simp only [Journaled.value_bind]
    cases (findTasks engines g.controller sv).value <;> rfl
  · rfl

theorem value_findContainer (only : Option String) (c : Engine.Container) :
    (findContainer group only c).value = containerAddresses group only c := by
  simp only [findContainer]
  split <;> rfl

theorem value_containerBlocks {c : Engine.Container} :
    (containerBlocks o g c).value = elements (described o c.labels c.json
      (if mentionsUpstreams (configLabels o.labelPrefix c.labels) then
        .ok (containerAddresses g.ingress (c.labels.get? o.ingressLabel) c) else .ok [])) := by
  simp only [containerBlocks, Journaled.value_bind, value_orNoted, value_labelBlocks,
    Journaled.value_map, value_findContainer]

theorem value_containerServers {c : Engine.Container} :
    (containerServers o g c).value =
      if c.labels.contains o.serverLabel then containerAddresses g.controller none c else [] := by
  unfold containerServers
  split
  · exact value_findContainer none c
  · rfl

theorem configShare_congr {e e' : Answers} {i : Nat}
    (h : ∀ id, e (.config id) = e' (.config id)) : configShare o (e, i) = configShare o (e', i) := by
  funext c
  simp only [configShare, configBlocks, h c.id]

def needsTasks (o : Options) (sv : Service) : Bool :=
  sv.labels.contains o.serverLabel ||
    (o.proxyTasks && mentionsUpstreams (configLabels o.labelPrefix sv.labels))

/-- The share of a service comes from its tasks, if they are asked for, and from nothing else that
engines know. -/
theorem serviceShare_congr
    (h : needsTasks o sv = true → tasksOf engines sv.id = tasksOf engines' sv.id) :
    serviceShare o engines g sv = serviceShare o engines' g sv := by
  have htasks (hn : needsTasks o sv = true) (group : Option NetworkGroup) :
      (findTasks engines group sv).value = (findTasks engines' group sv).value := by
    rw [value_findTasks, value_findTasks, h hn]
  unfold serviceShare
  congr 1
  · rw [value_serviceBlocks, value_serviceBlocks]
    split
    · next hm =>
      rw [value_findService, value_findService]
      split
      · next hp => rw [htasks (by simp [needsTasks, hp, hm])]
      · rfl
    · rfl
  · rw [value_serviceServers, value_serviceServers]
    split
    · next hl => rw [htasks (by rw [needsTasks, hl, Bool.true_or])]
    · rfl

end Workloads

section Cycles

variable {R : Comparison} {o : Options} {s s' : Surroundings} {m : Memory}

/-- If two cycles go by the same networks and the same nodes of a swarm, what their shares come to
can be compared engine by engine. -/
theorem map_cycleShares_congr {β : Type} (f : Share → β) (h : s.Related R s')
    (hsettled : settled o s m = settled o s' m) (hswarm : swarmKnown s m = swarmKnown s' m)
    (hshares : ∀ i e e' swarm, s.engines[i]? = some e → s'.engines[i]? = some e' →
      (swarmKnown s m).2[i]? = some swarm →
      (engineShares o s.engines.zipIdx (settled o s m).2 ((e, i), swarm)).map f =
        (engineShares o s'.engines.zipIdx (settled o s m).2 ((e', i), swarm)).map f) :
    (cycleShares o s m).map f = (cycleShares o s' m).map f := by
  -- The base file's share comes first; behind it stand those of the engines, one after the other.
  have hengines := map_zipIdx_zip_congr h.length (swarmKnown s m).2
    (f := fun e => (engineShares o s.engines.zipIdx (settled o s m).2 e).map f)
    (g := fun e => (engineShares o s'.engines.zipIdx (settled o s m).2 e).map f) hshares
  rw [cycleShares, cycleShares, allShares, allShares, ← h.base, ← hsettled, ← hswarm, List.map_cons,
    List.map_cons, List.map_flatMap, List.map_flatMap, List.flatMap_def, List.flatMap_def, hengines]

theorem value_cycle_congr {α : Type} (validate : Caddyfile.Validator α) (h : s.Related R s')
    (hsettled : settled o s m = settled o s' m) (hswarm : swarmKnown s m = swarmKnown s' m)
    (hshares : ∀ i e e' swarm, s.engines[i]? = some e → s'.engines[i]? = some e' →
      (swarmKnown s m).2[i]? = some swarm →
      engineShares o s.engines.zipIdx (settled o s m).2 ((e, i), swarm) =
        engineShares o s'.engines.zipIdx (settled o s m).2 ((e', i), swarm)) :
    (cycle o validate s m).value = (cycle o validate s' m).value := by
  have hall : (cycleShares o s m).map id = (cycleShares o s' m).map id := by
    apply map_cycleShares_congr id h hsettled hswarm
    intro i e e' swarm he he' hnode
    rw [hshares i e e' swarm he he' hnode]
  rw [List.map_id, List.map_id] at hall
  rw [value_cycle, value_cycle, hall, hsettled, hswarm]

end Cycles

end ProxyFleet.Fleet
