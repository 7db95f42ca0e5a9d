import ProxyFleet.Caddyfile.Prune
import ProxyFleet.Fleet.Harvest
import ProxyFleet.Fleet.Networks

/-!
One cycle makes a Caddyfile and the list of servers that are to load it from what the engines answer
at one moment. Failures are noted and add nothing, so a cycle always has a result. What is kept from
one cycle to the next are the network groups, the own container and, for a minute, which engines are
nodes of a swarm.
-/

namespace ProxyFleet.Fleet

/-- A Caddyfile that comes before all workloads. -/
structure BaseFile where
  path : String
  content : Except Failure Text.Bytes

/-- What a cycle finds. -/
structure Surroundings where
  engines : List Engine.Answers
  /-- The container in which the controller runs. -/
  own : Except Failure String
  base : Option BaseFile := none
  /-- In milliseconds. -/
  now : Nat := 0

structure Memory where
  own : Option String := none
  groups : Groups := {}
  /-- When the engines were last asked whether they are nodes of a swarm, and which of them are. -/
  swarm : Option (Nat × List Bool) := none
deriving DecidableEq, Repr, Inhabited

structure Generated where
  caddyfile : String
  servers : List String
deriving DecidableEq, Repr, Inhabited

/-- Milliseconds for which it is taken for granted which engines are nodes of a swarm. -/
def swarmMemory : Nat := 60000

def isSwarmNode (e : Numbered) : Journaled Bool := do
  match ← ask e .info with
  | .ok info => pure info.isSwarmActive
  | .error failure =>
    noteFailure "Swarm availability check failed" failure
    pure false

/-- Which engines are nodes of a swarm, and since when that is known. -/
def swarmNodes (known : Option (Nat × List Bool)) (now : Nat) (engines : List Numbered) :
    Journaled (Nat × List Bool) := do
  match known with
  | some (checked, nodes) =>
    if now - checked ≤ swarmMemory then pure (checked, nodes)
    else
      let nodes ← engines.mapM isSwarmNode
      pure (now, nodes)
  | none =>
    let nodes ← engines.mapM isSwarmNode
    pure (now, nodes)

def readBase (base : Option BaseFile) : Journaled (List Block) := do
  match base with
  | none => pure []
  | some file =>
    match file.content with
    | .ok data => readCaddyfile file.path data
    | .error failure =>
      noteFailure "Failed to read Caddyfile" failure [("path", file.path)]
      pure []

/-- The tree's global options, its snippets and all else. -/
structure Sections where
  globals : List Block
  snippets : List Block
  rest : List Block
deriving Inhabited

def Sections.ofTree (tree : List Block) : Sections :=
  let others := tree.filter fun b => !b.isGlobal
  ⟨tree.filter Block.isGlobal, others.filter Block.isSnippet, others.filter fun b => !b.isSnippet⟩

/-- Global options come first, and snippets before the sites that import them. -/
def Sections.text (s : Sections) : String :=
  Caddyfile.render s.globals ++ Caddyfile.render s.snippets ++ Caddyfile.render s.rest

/-- What stands for no configuration at all. -/
def emptyCaddyfile : String := "# Empty caddyfile"

def orEmpty (text : String) : String := if text = "" then emptyCaddyfile else text

/-- The text without its invalid blocks. -/
def pruned {α : Type} (validate : Caddyfile.Validator α) (text : String) : Journaled String :=
  let result := Caddyfile.prune validate text
  let notes :=
    if result.log = "" then []
    else [Entry.noted ⟨.info, "Process Caddyfile", [("logs", result.log)]⟩]
  ⟨result.text, result.asked.map Entry.validated ++ notes⟩

def localServers : Mode → List String
  | .standalone => ["localhost"]
  | .controller => []

/-- The groups of networks and the own container, as far as they are known or can be found. -/
def settle (o : Options) (s : Surroundings) (m : Memory) (engines : List Numbered) :
    Journaled (Option String × Groups) := do
  let own : Except Failure String := match m.own with
    | some id => .ok id
    | none => s.own
  let ingress ← settleGroup m.groups.ingress "ingress" o.ingressNetworks own engines
  let controller ←
    settleGroup m.groups.controller "controller" o.controllerNetwork.toList own engines
  pure (own.toOption, ⟨ingress, controller⟩)

/-- Everything that is configured, from the base file and from all engines. -/
def gatherAll (o : Options) (s : Surroundings) (g : Groups) (engines : List Numbered)
    (nodes : List Bool) : Journaled Harvest := do
  let base ← readBase s.base
  (engines.zip nodes).foldlM (addEngine o engines g) ((({} : Harvest)).add base [])

def cycle {α : Type} (o : Options) (validate : Caddyfile.Validator α) (s : Surroundings)
    (m : Memory) : Journaled (Generated × Memory) := do
  let engines := s.engines.zipIdx
  let (own, groups) ← settle o s m engines
  let swarm ← swarmNodes m.swarm s.now engines
  let harvest ← gatherAll o s groups engines swarm.2
  let text := (Sections.ofTree harvest.tree).text
  let text ← if o.prune then pruned validate text else pure text
  pure (⟨orEmpty text, harvest.servers ++ localServers o.mode⟩, ⟨own, groups, some swarm⟩)

/-- The subnets of the networks on which servers are reached, as far as they are known. -/
def Memory.controllerSubnets (m : Memory) : List Net.Subnet :=
  (m.groups.controller.map (·.subnets)).getD []

end ProxyFleet.Fleet
