import ProxyFleet.Engine.Record

/-!
Which events call for new configuration: those that change what runs and where it can be reached.
-/

namespace ProxyFleet.Engine

/-- The actions that matter for each kind of object. -/
def relevantActions : String → List String
  | "container" => ["create", "start", "stop", "die", "destroy"]
  | "service" => ["create", "update", "remove"]
  | "config" => ["create", "remove"]
  | "network" => ["connect", "disconnect"]
  | _ => []

def Event.isRelevant (e : Event) : Bool := (relevantActions e.kind).contains e.action

end ProxyFleet.Engine
