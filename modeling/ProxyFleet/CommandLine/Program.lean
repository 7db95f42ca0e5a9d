import ProxyFleet.CommandLine.Settings
import ProxyFleet.Control.Controller
import ProxyFleet.Delivery.Adapter
import ProxyFleet.Engine.Client

/-!
The program between engines, a converter and servers. It starts if every engine can be reached, if
the URL of the converter makes sense and if its own pages can be served; it fails at the first of
these that does not hold, in this order. Then it subscribes to the events of every engine and runs
cycle after cycle.
-/

namespace ProxyFleet.CommandLine

open Engine (Client Endpoint Filters)
open Net (Peer Request)

/-- What the program finds outside itself. -/
structure World where
  /-- Where the engine is, if no setting tells. -/
  engineHost : Option String := none
  engine : Endpoint → Peer
  converter : Delivery.AdapterUrl → Peer
  /-- The container in which the program runs. -/
  own : Except Failure String
  file : String → Except Failure Text.Bytes
  /-- Why nobody can listen at an address, if so. -/
  taken : Net.Socket → Option Failure
  /-- In milliseconds. -/
  now : Nat := 0

/-- A request to the engine with this number. -/
structure Asked where
  engine : Nat
  request : Request
deriving DecidableEq, Repr, Inhabited

/-- A client for the engine with this number. -/
structure Watched where
  client : Client
  engine : Nat
deriving DecidableEq, Repr, Inhabited

namespace Watched

def peer (e : Watched) (w : World) : Peer := w.engine e.client.endpoint

/-- The requests of one exchange with an engine. -/
def asked {α : Type} (e : Watched) (sent : Net.Sent α) : List Asked :=
  sent.requests.map (⟨e.engine, ·⟩)

/-- The subscription to the events that may change configuration. -/
def subscribe (e : Watched) (s : Settings) (w : World) : Net.Sent Net.Response :=
  e.client.subscribe (e.peer w) (Filters.ofEvents !s.allScopes)

def answers (e : Watched) (w : World) : Engine.Answers := fun q =>
  (e.client.ask (e.peer w) q).result.mapError (·.failure)

end Watched

/-- The engine on the same machine. -/
def localEngine : String := "unix:///var/run/docker.sock"

/-! Starting. -/

/-- What has been started: a client for each engine, and where Caddyfiles are converted. -/
structure Started where
  engines : List Watched
  converter : Delivery.AdapterUrl
deriving DecidableEq, Repr, Inhabited

/-- The outcome of something with the requests to engines that were made for it. -/
structure Tried (α : Type) where
  outcome : Except Failure α
  asked : List Asked := []

namespace Settings

def endpoints (s : Settings) (w : World) : Except Failure (List Endpoint) :=
  if s.engines.isEmpty then
    match Endpoint.parse (w.engineHost.getD localEngine) with
    | .ok endpoint => .ok [endpoint]
    | .error fault => .error fault.failure
  else .ok s.engines

def watched (s : Settings) (endpoints : List Endpoint) : List Watched :=
  endpoints.zipIdx.map fun (endpoint, i) => ⟨Client.new endpoint s.versions[i]?, i⟩

/-- Sees whether engines can be reached, up to the first that cannot. -/
def connect (w : World) : List Watched → Tried Unit
  | [] => ⟨.ok (), []⟩
  | e :: rest =>
    let sent := e.client.ping (e.peer w)
    match sent.result with
    | .ok _ =>
      let tried := connect w rest
      { tried with asked := e.asked sent ++ tried.asked }
    | .error fault =>
      let doing := "failed to connect to docker at " ++ e.client.endpoint.text
      ⟨.error (fault.failure.context doing), e.asked sent⟩

/-- Where Caddyfiles are converted, if pages can be served too. -/
def converter (s : Settings) (w : World) : Except Failure Delivery.AdapterUrl := do
  let url ← (Delivery.AdapterUrl.parse s.adapterUrl).mapError (·.failure)
  match w.taken s.admin with
  | some failure => .error (failure.context ("failed to bind admin server on " ++ s.admin.text))
  | none => .ok url

def start (s : Settings) (w : World) : Tried Started :=
  match s.endpoints w with
  | .error failure => ⟨.error failure, []⟩
  | .ok endpoints =>
    let engines := s.watched endpoints
    let connected := connect w engines
    let outcome := do
      connected.outcome
      let url ← s.converter w
      .ok ⟨engines, url⟩
    ⟨outcome, connected.asked⟩

end Settings

/-! Cycles. -/

/-- The controller after a cycle, with the requests that were made for it. -/
structure Cycled where
  controller : Control.Controller
  asked : List Asked
  /-- The requests to convert Caddyfiles, first those that see whether they are valid. -/
  converted : List Request

namespace Started

def subscriptions (p : Started) (s : Settings) (w : World) : List Asked :=
  p.engines.flatMap fun e => e.asked (e.subscribe s w)

/-- The requests for the questions that a journal tells of. -/
def questions (p : Started) (w : World) (journal : List Fleet.Entry) : List Asked :=
  (journal.filterMap Fleet.Entry.asked?).flatMap fun (i, q) =>
    p.engines[i]?.toList.flatMap fun e => e.asked (e.client.ask (e.peer w) q)

def surroundings (p : Started) (s : Settings) (w : World) : Fleet.Surroundings where
  engines := p.engines.map (·.answers w)
  own := w.own
  base := s.base.map fun path => ⟨path, w.file path⟩
  now := w.now

def cycle (p : Started) (s : Settings) (w : World) (c : Control.Controller) : Cycled :=
  let send (text : String) := p.converter.convert (w.converter p.converter) text
  let convert : Caddyfile.Validator Json := fun text => (send text).result.mapError (·.failure)
  let cycled := c.cycle s.options convert convert (p.surroundings s w)
  let changed := if cycled.value.saved = c.saved then [] else cycled.value.saved.toList
  let texts := cycled.journal.filterMap Fleet.Entry.validated? ++ changed
  ⟨cycled.value, p.questions w cycled.journal, texts.flatMap fun text => (send text).requests⟩

end Started

end ProxyFleet.CommandLine
