import ProxyFleet.Caddyfile.Merge
import ProxyFleet.Caddyfile.Parser
import ProxyFleet.Engine.Codec
import ProxyFleet.Fleet.Addresses
import ProxyFleet.Fleet.Labels
import ProxyFleet.Fleet.Options
import ProxyFleet.Label.Tree
import ProxyFleet.Workload.Functions

/-!
What one cycle gathers: the tree of configuration, into which every workload's blocks are merged one
after the other, and the servers to be configured. A workload whose labels make no sense adds
nothing to the tree.
-/

namespace ProxyFleet.Fleet

open Engine (Container Service Config)

structure Harvest where
  tree : List Block := []
  servers : List String := []
deriving Inhabited

namespace Harvest

def add (h : Harvest) (blocks : List Block) (servers : List String) : Harvest :=
  ⟨Caddyfile.merge h.tree blocks, h.servers ++ servers⟩

end Harvest

/-- The groups by which addresses are chosen; a group that could not be found chooses all. -/
structure Groups where
  ingress : Option NetworkGroup := none
  controller : Option NetworkGroup := none
deriving DecidableEq, Repr, Inhabited

/-- The blocks of a text, as far as it can be read, with a note if that is not to the end. -/
def readCaddyfile (source : String) (data : Text.Bytes) : Journaled (List Block) := do
  let reading := Caddyfile.parseBytes data
  match reading.fault with
  | some fault =>
    note .error "Failed to parse Caddyfile" [("source", source), ("error", fault.message)]
  | none => pure ()
  pure reading.blocks

/-- The blocks of a workload, given its labels and how to find its addresses. Addresses are looked
for only if a label may ask for them. -/
def labelBlocks (o : Options) (labels : Engine.Labels) (data : Json)
    (find : Journaled (Except Failure (List String))) :
    Journaled (Except Label.LabelError (List Block)) := do
  let labels := configLabels o.labelPrefix labels
  if labels.isEmpty then pure (.ok [])
  else
    let targets ← if mentionsUpstreams labels then find else pure (.ok [])
    let functions := Workload.functions (targets.mapError Failure.chain) o.localDomain
    pure (Label.blocks functions data labels)

def orNoted (message : String) (about : List (String × String))
    (blocks : Except Label.LabelError (List Block)) : Journaled (List Block) := do
  match blocks with
  | .ok blocks => pure blocks
  | .error e =>
    note .error message (about ++ [("error", e.message)])
    pure []

def containerBlocks (o : Options) (g : Groups) (c : Container) : Journaled (List Block) := do
  let find : Journaled (Except Failure (List String)) :=
    .ok <$> findContainer g.ingress (c.labels.get? o.ingressLabel) c
  orNoted "Failed to get container Caddyfile" [("container", c.id)]
    (← labelBlocks o c.labels c.json find)

def containerServers (o : Options) (g : Groups) (c : Container) : Journaled (List String) :=
  if c.labels.contains o.serverLabel then findContainer g.controller none c else pure []

def addContainer (o : Options) (g : Groups) (h : Harvest) (c : Container) : Journaled Harvest := do
  let servers ← containerServers o g c
  let blocks ← containerBlocks o g c
  pure (h.add blocks servers)

def serviceBlocks (o : Options) (engines : List Numbered) (g : Groups) (s : Service) :
    Journaled (List Block) := do
  orNoted "Failed to get swarm service Caddyfile" [("service", s.name)]
    (← labelBlocks o s.labels s.json (findService o.proxyTasks engines g.ingress s))

def serviceServers (o : Options) (engines : List Numbered) (g : Groups) (s : Service) :
    Journaled (List String) := do
  if s.labels.contains o.serverLabel then
    match ← findTasks engines g.controller s with
    | .ok addresses => pure addresses
    | .error failure =>
      noteFailure "Failed to get swarm service IPs" failure [("service", s.name)]
      pure []
  else pure []

def addService (o : Options) (engines : List Numbered) (g : Groups) (h : Harvest) (s : Service) :
    Journaled Harvest := do
  let servers ← serviceServers o engines g s
  let blocks ← serviceBlocks o engines g s
  pure (h.add blocks servers)

/-- Adds a config of a swarm if it is marked by the label prefix. -/
def addConfig (o : Options) (e : Numbered) (h : Harvest) (c : Config) : Journaled Harvest := do
  if c.labels.contains o.labelPrefix then
    match ← ask e (.config c.id) with
    | .ok full => pure (h.add (← readCaddyfile c.name full.data) [])
    | .error failure =>
      noteFailure "Failed to inspect swarm config" failure [("config", c.name)]
      pure h
  else pure h

/-- The answer to a question for a list; one that fails is noted and stands for no elements. -/
def listed {α : Type} (message : String) (answer : Journaled (Except Failure (List α))) :
    Journaled (List α) := do
  match ← answer with
  | .ok items => pure items
  | .error failure =>
    noteFailure message failure
    pure []

/-- Adds what one engine knows: configs, containers and services. Only the node of a swarm is asked
for configs and services. -/
def addEngine (o : Options) (engines : List Numbered) (g : Groups) (h : Harvest)
    (e : Numbered × Bool) : Journaled Harvest := do
  let (e, swarm) := e
  let configs ←
    if swarm then listed "Failed to list swarm configs" (ask e .configs) else pure []
  let h ← configs.foldlM (addConfig o e) h
  let containers ← listed "Failed to list containers" (ask e (.containers o.scanStopped))
  let h ← containers.foldlM (addContainer o g) h
  let services ← if swarm then listed "Failed to list services" (ask e .services) else pure []
  services.foldlM (addService o engines g) h

end ProxyFleet.Fleet
