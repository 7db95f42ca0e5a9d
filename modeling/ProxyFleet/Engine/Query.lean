import ProxyFleet.Engine.Filters
import ProxyFleet.Engine.Record
import ProxyFleet.Failure

/-!
The questions that can be put to an engine, with the type of the answer to each. An engine at one
moment is the answers it gives to all of them.
-/

namespace ProxyFleet.Engine

inductive Query where
  | info
  /-- The running containers, or all of them. -/
  | containers (all : Bool)
  | container (id : String)
  | networks
  | network (id : String)
  | services
  /-- The tasks of a service that ought to be running. -/
  | tasks (service : String)
  /-- The configs without their data. -/
  | configs
  | config (id : String)
deriving DecidableEq, Repr, Inhabited

namespace Query

@[reducible] def Answer : Query → Type
  | .info => Info
  | .containers _ => List Container
  | .container _ => Details
  | .networks => List Network
  | .network _ => Network
  | .services => List Service
  | .tasks _ => List Task
  | .configs => List Config
  | .config _ => Config

def name : Query → String
  | .info => "info"
  | .containers _ => "list_containers"
  | .container _ => "inspect_container"
  | .networks => "list_networks"
  | .network _ => "inspect_network"
  | .services => "list_services"
  | .tasks _ => "list_tasks"
  | .configs => "list_configs"
  | .config _ => "inspect_config"

/-- The questions that only a node of a swarm can answer. -/
def needsSwarm : Query → Bool
  | .services | .tasks _ | .configs | .config _ => true
  | _ => false

/-- Asks for the tasks of one service that ought to be running. -/
def taskFilters (service : String) : Filters :=
  Filters.ofList [("service", service), ("desired-state", "running")]

/-- The path and query of a request for the answer. -/
def path : Query → String
  | .info => "/info"
  | .containers all => "/containers/json?all=" ++ (if all then "true" else "false")
  | .container id => "/containers/" ++ id ++ "/json"
  | .networks => "/networks"
  | .network id => "/networks/" ++ id
  | .services => "/services"
  | .tasks service => "/tasks?" ++ (taskFilters service).query
  | .configs => "/configs"
  | .config id => "/configs/" ++ id

end Query

/-- What one engine answers to every question. -/
abbrev Answers := (q : Query) → Except Failure q.Answer

end ProxyFleet.Engine
