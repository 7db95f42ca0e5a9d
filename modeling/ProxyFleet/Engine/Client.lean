import ProxyFleet.Engine.Endpoint
import ProxyFleet.Engine.EventStream
import ProxyFleet.Engine.Query

/-!
Asking an engine over its HTTP interface. A version of the interface can be asked for.
-/

namespace ProxyFleet.Engine

open Net (Peer Response Sent ExchangeFault)

structure Client where
  endpoint : Endpoint
  /-- What comes before every path. -/
  root : String := ""
deriving DecidableEq, Repr, Inhabited

/-- The answer that a document holds. -/
def Query.decode? : (q : Query) → Json → Option q.Answer
  | .info, j => Info.ofJson? j
  | .containers _, j => j.list? Container.ofJson?
  | .container _, j => Details.ofJson? j
  | .networks, j => j.list? Network.ofJson?
  | .network _, j => Network.ofJson? j
  | .services, j => j.list? Service.ofJson?
  | .tasks _, j => j.list? Task.ofJson?
  | .configs, j => j.list? Config.ofJson?
  | .config _, j => Config.ofJson? j

namespace Client

/-- The path in front of all others for a version, which may be written with a `v` in front. -/
def rootOf (version : Option String) : String :=
  match (version.getD "").toList.dropWhile (· = 'v') with
  | [] => ""
  | number => "/v" ++ String.ofList number

def new (endpoint : Endpoint) (version : Option String) : Client := ⟨endpoint, rootOf version⟩

def host (c : Client) : String :=
  match c.endpoint with
  | .unix _ => "docker"
  | .tcp address => address

/-- A response is only good if its status says so. -/
def accept (path : String) (r : Response) : Except ExchangeFault Response :=
  if r.isSuccess then .ok r
  else if !r.isComplete then .error Net.brokenBody
  else .error (.failed ⟨"GET " ++ path ++ " failed with " ++ r.complaint, []⟩)

def get (c : Client) (p : Peer) (path : String) : Sent Response :=
  (p.send "GET" (c.root ++ path) c.host none "").thenTry (accept path)

/-- Checks that the engine can be reached. -/
def ping (c : Client) (p : Peer) : Sent Unit :=
  (c.get p "/_ping").thenTry fun r => (Net.wholeBody r).map fun _ => ()

/-- The answer in a response to the request for a path. -/
def answerIn (q : Query) (r : Response) : Except ExchangeFault q.Answer := do
  let body ← Net.wholeBody r
  match (Json.ofBytes? body).bind q.decode? with
  | some answer => .ok answer
  | none => .error (.undecodable ("invalid response to GET " ++ q.path))

def ask (c : Client) (p : Peer) (q : Query) : Sent q.Answer :=
  ((c.get p q.path).mapFault
    (ExchangeFault.context ("docker API request to " ++ c.endpoint.text))).thenTry (answerIn q)

def eventsPath (filters : Filters) : String :=
  if filters.isEmpty then "/events" else "/events?" ++ filters.query

/-- The response that brings the events. -/
def subscribe (c : Client) (p : Peer) (filters : Filters) : Sent Response :=
  (c.get p (eventsPath filters)).mapFault
    (ExchangeFault.context ("docker events subscription to " ++ c.endpoint.text))

/-- What the events of a response are, one after the other. -/
def items (r : Response) : List (Except ExchangeFault Event) := (EventStream.ofResponse r).items

end Client

end ProxyFleet.Engine
