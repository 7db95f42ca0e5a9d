import Mathlib.Data.List.Basic
import ProxyFleet.Fleet.Cycle

/-!
What a cycle is worth without its journal. Every config, container and service has a share in the
harvest, and the harvest is what all shares come to: their blocks merged one after the other, and
their servers.
-/

namespace ProxyFleet.Fleet

open Engine (Config Container Service)

theorem value_gather_congr {α β γ : Type} {f : α → Journaled (Except Failure (List γ))}
    {g : β → Journaled (Except Failure (List γ))} {as : List α} {bs : List β}
    (h : (as.map fun a => (f a).value) = bs.map fun b => (g b).value) :
    (Journaled.gather f as).value = (Journaled.gather g bs).value := by
  induction as generalizing bs with
  | nil =>
    cases bs with
    | nil => rfl
    | cons b bs => cases h
  | cons a as ih =>
    cases bs with
    | nil => cases h
    | cons b bs =>
      obtain ⟨hab, hrest⟩ := List.cons.inj h
      simp only [Journaled.gather, Journaled.value_bind, hab]
      cases (g b).value with
      | error failure => rfl
      | ok found =>
        simp only [Journaled.value_bind, ih hrest]

/-- The elements of an answer; one that fails has none. -/
def elements {ε α : Type} : Except ε (List α) → List α
  | .ok items => items
  | .error _ => []

theorem mem_elements {ε α : Type} {x : Except ε (List α)} {a : α} :
    a ∈ elements x ↔ ∃ items, x = .ok items ∧ a ∈ items := by
  cases x <;> simp [elements]

theorem value_listed {α : Type} (message : String) (answer : Journaled (Except Failure (List α))) :
    (listed message answer).value = elements answer.value := by
  simp only [listed, Journaled.value_bind]
  cases answer.value <;> rfl

def described (o : Options) (labels : Engine.Labels) (data : Json)
    (targets : Except Failure (List String)) : Except Label.LabelError (List Block) :=
  Label.blocks (Workload.functions (targets.mapError Failure.chain) o.localDomain) data
    (configLabels o.labelPrefix labels)

theorem described_of_isEmpty {o : Options} {labels : Engine.Labels} {data : Json}
    {targets : Except Failure (List String)}
    (h : (configLabels o.labelPrefix labels).isEmpty = true) :
    described o labels data targets = .ok [] := by
  rw [Keyed.isEmpty, List.isEmpty_iff] at h
  simp [described, Label.blocks, h, Label.plantAll, Except.map]

theorem value_labelBlocks (o : Options) (labels : Engine.Labels) (data : Json)
    (find : Journaled (Except Failure (List String))) :
    (labelBlocks o labels data find).value = described o labels data
      (if mentionsUpstreams (configLabels o.labelPrefix labels) then find.value else .ok []) := by
  simp only [labelBlocks]
  split
  · next h => exact (described_of_isEmpty h).symm
  · split <;> rfl

theorem value_orNoted (message : String) (about : List (String × String))
    (blocks : Except Label.LabelError (List Block)) :
    (orNoted message about blocks).value = elements blocks := by
  cases blocks <;> rfl

theorem value_readCaddyfile (source : String) (data : Text.Bytes) :
    (readCaddyfile source data).value = (Caddyfile.parseBytes data).blocks := by
  simp only [readCaddyfile]
  split <;> rfl

theorem parseBytes_nil : Caddyfile.parseBytes [] = ⟨[], none⟩ := by decide +kernel

def merged (trees : List (List Block)) : List Block := trees.foldl Caddyfile.merge []

/-- What a source of configuration adds to a harvest. -/
@[ext] structure Share where
  blocks : List Block
  servers : List String := []
deriving Inhabited

namespace Harvest

def gain (h : Harvest) (share : Share) : Harvest := h.add share.blocks share.servers

theorem add_nil (h : Harvest) : h.add [] [] = h := by
  simp [add, Caddyfile.merge, Caddyfile.mergeInto]

theorem foldl_gain (shares : List Share) (h : Harvest) :
    shares.foldl gain h = ⟨(shares.map (·.blocks)).foldl Caddyfile.merge h.tree,
      h.servers ++ shares.flatMap (·.servers)⟩ := by
  induction shares generalizing h with
  | nil => simp
  | cons share shares ih => simp [ih, gain, add]

end Harvest

section Shares

variable (o : Options) (engines : List Numbered) (g : Groups) (h : Harvest)

def configBlocks (e : Numbered) (c : Config) : List Block :=
  if c.labels.contains o.labelPrefix then
    match e.1 (.config c.id) with
    | .ok full => (Caddyfile.parseBytes full.data).blocks
    | .error _ => []
  else []

def configShare (e : Numbered) (c : Config) : Share := { blocks := configBlocks o e c }

def containerShare (c : Container) : Share :=
  ⟨(containerBlocks o g c).value, (containerServers o g c).value⟩

def serviceShare (s : Service) : Share :=
  ⟨(serviceBlocks o engines g s).value, (serviceServers o engines g s).value⟩

theorem value_addConfig (e : Numbered) (c : Config) :
    (addConfig o e h c).value = h.gain (configShare o e c) := by
  simp only [addConfig, Harvest.gain, configShare, configBlocks]
  split
  · simp only [Journaled.value_bind, value_ask]
    cases e.1 (.config c.id) with
    | ok full => simp only [Journaled.value_bind, value_readCaddyfile, Journaled.value_pure]
    | error failure => exact h.add_nil.symm
  · exact h.add_nil.symm

theorem value_addContainer (c : Container) :
    (addContainer o g h c).value = h.gain (containerShare o g c) := rfl

theorem value_addService (s : Service) :
    (addService o engines g h s).value = h.gain (serviceShare o engines g s) := rfl

def engineShares (e : Numbered × Bool) : List Share :=
  (if e.2 then (elements (e.1.1 .configs)).map (configShare o e.1) else []) ++
    ((elements (e.1.1 (.containers o.scanStopped))).map (containerShare o g) ++
      if e.2 then (elements (e.1.1 .services)).map (serviceShare o engines g) else [])

theorem value_addEngine (e : Numbered × Bool) :
    (addEngine o engines g h e).value = (engineShares o engines g e).foldl Harvest.gain h := by
  obtain ⟨e, swarm⟩ := e
  cases swarm <;>
    simp [addEngine, engineShares, Journaled.value_foldlM, value_listed,
      value_addConfig, value_addContainer, value_addService, List.foldl_map]

end Shares

def baseBlocks (base : Option BaseFile) : List Block := (readBase base).value

def allShares (o : Options) (s : Surroundings) (g : Groups) (nodes : List Bool) : List Share :=
  { blocks := baseBlocks s.base } ::
    (s.engines.zipIdx.zip nodes).flatMap (engineShares o s.engines.zipIdx g)

theorem value_gatherAll (o : Options) (s : Surroundings) (g : Groups) (nodes : List Bool) :
    (gatherAll o s g s.engines.zipIdx nodes).value =
      ⟨merged ((allShares o s g nodes).map (·.blocks)),
        (allShares o s g nodes).flatMap (·.servers)⟩ := by
  have hall : (gatherAll o s g s.engines.zipIdx nodes).value =
      (allShares o s g nodes).foldl Harvest.gain {} := by
    simp only [gatherAll, Journaled.value_bind, Journaled.value_foldlM, value_addEngine, allShares,
      List.foldl_cons, List.foldl_flatMap]
    rfl
  rw [hall, Harvest.foldl_gain]
  rfl

/-- Which networks and which own container a cycle goes by. -/
def settled (o : Options) (s : Surroundings) (m : Memory) : Option String × Groups :=
  (settle o s m s.engines.zipIdx).value

/-- Which engines a cycle takes for nodes of a swarm, and since when that is known. -/
def swarmKnown (s : Surroundings) (m : Memory) : Nat × List Bool :=
  (swarmNodes m.swarm s.now s.engines.zipIdx).value

def cycleShares (o : Options) (s : Surroundings) (m : Memory) : List Share :=
  allShares o s (settled o s m).2 (swarmKnown s m).2

def finished {α : Type} (o : Options) (validate : Caddyfile.Validator α) (text : String) : String :=
  orEmpty (if o.prune then (Caddyfile.prune validate text).text else text)

theorem value_cycle {α : Type} (o : Options) (validate : Caddyfile.Validator α) (s : Surroundings)
    (m : Memory) :
    (cycle o validate s m).value =
      (⟨finished o validate
          (Sections.ofTree (merged ((cycleShares o s m).map (·.blocks)))).text,
        (cycleShares o s m).flatMap (·.servers) ++ localServers o.mode⟩,
        ⟨(settled o s m).1, (settled o s m).2, some (swarmKnown s m)⟩) := by
  simp only [cycle, Journaled.value_bind, value_gatherAll, finished, cycleShares, settled,
    swarmKnown]
  cases o.prune <;> rfl

/-- What cycles generate one after the other, in surroundings that may change between them. -/
def generated {α : Type} (o : Options) (validate : Caddyfile.Validator α) :
    Memory → List Surroundings → List Generated
  | _, [] => []
  | m, s :: later =>
    (cycle o validate s m).value.1 :: generated o validate (cycle o validate s m).value.2 later

end ProxyFleet.Fleet
