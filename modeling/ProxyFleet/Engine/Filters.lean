import ProxyFleet.Json.Printer
import ProxyFleet.Net.Query

/-!
Filters for lists and event streams: for each key the values that may occur. They are sent as a JSON
document in the query of a request.
-/

namespace ProxyFleet.Engine

/-- Values by key, each once and in order. -/
structure Filters where
  table : Keyed (Keyed Unit)
deriving DecidableEq, Repr, Inhabited

namespace Filters

def none : Filters := ⟨Keyed.empty⟩

def add (f : Filters) (key value : String) : Filters :=
  ⟨f.table.modify key fun values => (values.getD Keyed.empty).put value ()⟩

def ofList (pairs : List (String × String)) : Filters :=
  pairs.foldl (fun f p => f.add p.1 p.2) none

def isEmpty (f : Filters) : Bool := f.table.isEmpty

def values (f : Filters) (key : String) : List String :=
  ((f.table.get? key).getD Keyed.empty).keys

def json (f : Filters) : Json := Json.ofKeyed (f.table.map fun values => Json.strings values.keys)

/-- The document as text. -/
def text (f : Filters) : String := f.json.text

/-- The query of a request that carries the filters. -/
def query (f : Filters) : String := Net.encodePair "filters" f.text

end Filters

/-- The events that may change configuration: those of services, containers, configs and networks,
in the swarm and the local scope if scopes are asked for. -/
def Filters.ofEvents (byScope : Bool) : Filters :=
  Filters.ofList
    ((if byScope then [("scope", "swarm"), ("scope", "local")] else []) ++
      [("type", "service"), ("type", "container"), ("type", "config"), ("type", "network")])

end ProxyFleet.Engine
