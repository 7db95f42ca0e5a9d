import ProxyFleet.Engine.Query

/-!
An engine kept in memory. It answers from the records it was given, and any kind of question can be
made to fail.
-/

namespace ProxyFleet.Engine

structure Inventory where
  info : Info := {}
  containers : List Container := []
  /-- Replaces what inspection finds out about a container. -/
  details : Keyed Details := Keyed.empty
  networks : List Network := []
  services : List Service := []
  tasks : List Task := []
  configs : List Config := []
  /-- The names of the questions that fail. -/
  failing : List String := []
deriving Inhabited

namespace Inventory

/-- A container without a state counts as running. -/
def isListed (all : Bool) (c : Container) : Bool :=
  all || c.state = "" || c.state = "running"

def addDetails (v : Inventory) (d : Details) : Inventory :=
  { v with details := v.details.put d.id d }

def removeContainer (v : Inventory) (id : String) : Inventory :=
  { v with containers := v.containers.filter (·.id ≠ id) }

def fail (v : Inventory) (query : String) : Inventory :=
  { v with failing := query :: v.failing }

def recover (v : Inventory) (query : String) : Inventory :=
  { v with failing := v.failing.filter (· ≠ query) }

def inspect (v : Inventory) (id : String) : Except Failure Details :=
  match v.details.get? id with
  | some d => .ok d
  | none =>
    match v.containers.find? (·.id = id) with
    | some c => .ok ⟨c.id, c.names.headD "", c.networks⟩
    | none => .error ⟨"no such container: " ++ id, []⟩

def findNetwork (v : Inventory) (id : String) : Except Failure Network :=
  match v.networks.find? fun n => n.id = id || n.name = id with
  | some n => .ok n
  | none => .error ⟨"network " ++ id ++ " not found", []⟩

def findConfig (v : Inventory) (id : String) : Except Failure Config :=
  match v.configs.find? (·.id = id) with
  | some c => .ok c
  | none => .error ⟨"config " ++ id ++ " not found", []⟩

/-- Fails if the named question is to fail. -/
def check (v : Inventory) (query : String) : Except Failure Unit :=
  if v.failing.contains query then .error ⟨query ++ " failed", []⟩ else .ok ()

/-- The answer to a question that does not fail. -/
def answer (v : Inventory) : Answers
  | .info => .ok v.info
  | .containers all => .ok (v.containers.filter (isListed all))
  | .container id => v.inspect id
  | .networks => .ok v.networks
  | .network id => v.findNetwork id
  | .services => .ok v.services
  | .tasks service => .ok (v.tasks.filter (·.serviceId = service))
  | .configs => .ok (v.configs.map fun c => { c with data := [] })
  | .config id => v.findConfig id

def answers (v : Inventory) : Answers := fun q =>
  match v.check q.name with
  | .ok _ => v.answer q
  | .error failure => .error failure

end Inventory

end ProxyFleet.Engine
