import ProxyFleet.Admin.Reply
import ProxyFleet.CommandLine.Program
import ProxyFleet.CommandLine.Usage
import ProxyFleet.Control.Watch
import ProxyFleet.Engine.Identity
import ProxyFleet.Engine.Trigger
import ProxyFleet.Net.Transcript
import Std.Async.DNS
import Std.Async.TCP

/-!
The command line. Whatever is decided is decided on a transcript of what has been exchanged so far;
here requests are sent, pages and files are written, and time passes. There is a task for the pages
and one for the events of every engine, and the control loop is the main task.
-/

namespace ProxyFleet.Main

open CommandLine (Settings World Started Watched)
open Net (Breakdown Posted Request Response Transcript)
open Std.Async
open Std.Async.TCP
open Text (Bytes)

/-! Connections. -/

def failureOf (e : IO.Error) : Failure := ⟨toString e, []⟩

def attempt {α : Type} (action : IO α) : IO (Except Failure α) := do
  try return .ok (← action)
  catch e => return .error (failureOf e)

def socketAddress? (host : String) (port : UInt16) : Option Std.Net.SocketAddress :=
  match Std.Net.IPv4Addr.ofString host, Std.Net.IPv6Addr.ofString host with
  | some address, _ => some (.v4 ⟨address, port⟩)
  | none, some address => some (.v6 ⟨address, port⟩)
  | none, none => none

/-- The first address of a host that is given by its name. -/
def resolve (host : String) (port : UInt16) : IO Std.Net.SocketAddress := do
  if let some address := socketAddress? host port then return address
  let addresses ← (DNS.getAddrInfo host (toString port)).block
  match addresses.toList.head? with
  | some (.v4 address) => return .v4 ⟨address, port⟩
  | some (.v6 address) => return .v6 ⟨address, port⟩
  | none => throw (IO.userError ("no address for " ++ host))

/-- The host and the port of a place, which is an authority or the text of an endpoint. -/
def hostAndPort? (place : String) : Option (String × UInt16) := do
  match (place.splitOn "://").getLast?.map (·.splitOn ":") with
  | some parts =>
    let port ← parts.getLast?.bind String.toNat?
    let host := (String.intercalate ":" parts.dropLast).toList.filter fun c => c ≠ '[' && c ≠ ']'
    some (String.ofList host, port.toUInt16)
  | none => none

/-- Sends a request and hands over what has been received each time that something is, and whether
the connection has ended, until `finished` says that it is enough. -/
def post (p : Posted) (finished : Bytes → Bool → IO Bool) : IO Unit := do
  match hostAndPort? p.place with
  | none => throw (IO.userError "only endpoints with a host and port can be reached")
  | some (host, port) =>
    let client ← Socket.Client.mk
    (client.connect (← resolve host port)).block
    (client.send (ByteArray.mk p.request.bytes.toArray)).block
    let mut received : Bytes := []
    repeat
      match ← (client.recv? 65536).block with
      | some more =>
        received := received ++ more.toList
        if ← finished received false then break
      | none =>
        let _ ← finished received true
        break

/-- Nothing more has to be received for this. -/
def isWhole : Except Breakdown Response → Bool
  | .ok response => response.isComplete
  | .error _ => true

/-- The response to a request. -/
def fetch (p : Posted) : IO (Except Breakdown Response) := do
  let result ← IO.mkRef none
  post p fun received hasEnded => do
    let response := Response.ofBytes? received hasEnded
    result.set response
    return response.any isWhole
  return (← result.get).getD (.error .closed)

/-- What comes of a run once all responses that it depends on are known. -/
def complete {α : Type} (run : Transcript → α) (posted : α → List Posted) : IO α := do
  let mut transcript : Transcript := {}
  let mut result := run transcript
  repeat
    match transcript.missing? (posted result) with
    | none => break
    | some p =>
      transcript := transcript.add p (← attempt (fetch p))
      result := run transcript
  return result

/-! The world. -/

structure Files where
  base : Except Failure Bytes
  own : Except Failure String

def textOf (path : String) : IO (Option String) := do
  let result ← attempt (IO.FS.readBinFile path)
  return result.toOption.map fun data => Text.lossy data.toList

def files (s : Settings) : IO Files := do
  let base ← attempt (IO.FS.readBinFile (s.base.getD ""))
  let sources : Engine.Identity.Sources :=
    ⟨← textOf "/proc/self/cgroup", ← textOf "/proc/self/mountinfo", ← IO.getEnv "HOSTNAME",
      ← textOf "/etc/hostname"⟩
  return ⟨base.map (·.toList), sources.container⟩

def world (engineHost : Option String) (f : Files) (taken : Option Failure) (now : Nat)
    (t : Transcript) : World where
  engineHost := engineHost
  engine endpoint := t.peer endpoint.text
  converter url := t.peer url.authority
  own := f.own
  file _ := f.base
  taken _ := taken
  now := now

def askedOf (engines : List Watched) (asked : List CommandLine.Asked) : List Posted :=
  asked.filterMap fun a =>
    engines[a.engine]?.map fun e => ⟨e.client.endpoint.text, a.request⟩

/-! Tasks. -/

def serve (server : Socket.Server) (status : IO.Ref Admin.Status) : IO Unit := do
  repeat
    let client ← server.accept.block
    let _ ← attempt do
      let mut received : Bytes := []
      repeat
        match ← (client.recv? 65536).block with
        | none => break
        | some more =>
          received := received ++ more.toList
          if let some reply := (← status.get).reply? received then
            (client.send (ByteArray.mk reply.toArray)).block
            client.shutdown.block
            break

/-- Subscribes to the events of an engine again and again. -/
def listen (s : Settings) (e : Watched) (intervals : Control.Intervals)
    (watch : IO.Ref Control.Watch) : IO Unit := do
  let w := world none ⟨.ok [], .ok ""⟩ none 0 {}
  repeat
    for request in (e.subscribe s w).requests do
      let seen ← IO.mkRef 0
      let _ ← attempt <| post ⟨e.client.endpoint.text, request⟩ fun received hasEnded => do
        match Response.ofBytes? received hasEnded with
        | none => return false
        | some (.error _) => return true
        | some (.ok response) =>
          let items := if response.isSuccess then Engine.Client.items response else []
          let events := items.filterMap Except.toOption
          for event in events.drop (← seen.get) do
            if event.isRelevant then
              let now ← IO.monoMsNow
              watch.modify fun watch => watch.observe intervals now e.engine
          seen.set events.length
          return response.isComplete
    IO.sleep intervals.reconnect.toUInt32

/-- Pushes the configuration of the last rollout to the servers that may be told to load. -/
def deliver (c : Control.Controller) : IO Control.Controller := do
  let mut dispatch := c.dispatch
  let d := dispatch.rollouts.length - 1
  let pushes := (dispatch.rollouts[d]?.map fun x => x.pushes.length).getD 0
  for i in List.range pushes do
    dispatch := dispatch.begin d i
    if let some (load, .loading) := dispatch.push? d i then
      let place := Net.authority load.server Delivery.AdapterUrl.adminPort
      let sent ← complete
        (fun t => Delivery.load (t.peer place) Delivery.AdapterUrl.adminPort load.server load.config)
        (fun sent => sent.requests.map fun request => ⟨place, request⟩)
      dispatch := dispatch.finish d i sent.result.isOk
  return { c with dispatch := { dispatch with rollouts := [] } }

def autosavePath : String := "Caddyfile.autosave"

/-- Runs a cycle whenever the timer is due. -/
def control (s : Settings) (p : Started) (engineHost : Option String)
    (intervals : Control.Intervals) (watch : IO.Ref Control.Watch)
    (status : IO.Ref Admin.Status) : IO Unit := do
  let mut controller : Control.Controller := {}
  repeat
    let now ← IO.monoMsNow
    if (← watch.get).timer.isDue now then
      watch.modify fun watch => watch.startCycle intervals now
      let f ← files s
      let before := controller
      let cycled ← complete
        (fun t => p.cycle s (world engineHost f none now t) before)
        (fun cycled => askedOf p.engines cycled.asked ++
          cycled.converted.map fun request => ⟨p.converter.authority, request⟩)
      if let some text := cycled.controller.saved then
        if before.saved ≠ some text then
          let _ ← attempt (IO.FS.writeFile autosavePath text)
      controller ← deliver cycled.controller
      status.set controller.status
      watch.modify fun watch => watch.endCycle intervals now
    else IO.sleep 10

/-- A server for the pages, or why there is none. -/
def bind (s : Settings) : IO (Except Failure Socket.Server) := attempt do
  let server ← Socket.Server.mk
  server.bind (← resolve s.admin.address.text s.admin.port.toUInt16)
  server.listen 128
  return server

def run (s : Settings) : IO UInt32 := do
  let engineHost ← IO.getEnv "DOCKER_HOST"
  let server ← bind s
  let taken := match server with
    | .ok _ => none
    | .error failure => some failure
  let f ← files s
  let started ← complete
    (fun t =>
      let w := world engineHost f taken 0 t
      (s.start w, s.watched ((s.endpoints w).toOption.getD [])))
    (fun (tried, engines) => askedOf engines tried.asked)
  match started.1.outcome, server with
  | .ok p, .ok server =>
    let intervals : Control.Intervals :=
      ⟨s.polling.milliseconds, s.throttle.milliseconds, s.reconnect.milliseconds⟩
    let watch ← IO.mkRef (Control.Watch.new (← IO.monoMsNow) p.engines.length)
    let status ← IO.mkRef ({} : Admin.Status)
    let _ ← IO.asTask (serve server status) .dedicated
    for e in p.engines do
      let _ ← IO.asTask (listen s e intervals watch) .dedicated
    control s p engineHost intervals watch status
    return 0
  | .error failure, _ | _, .error failure =>
    IO.eprintln ("Error: " ++ failure.chain)
    return 1

end ProxyFleet.Main

open ProxyFleet in
def main (arguments : List String) : IO UInt32 := do
  let names := CommandLine.Setting.all.filterMap (·.envVariable)
  let values ← names.mapM fun name => return (name, ← IO.getEnv name)
  match CommandLine.Settings.parse (fun name => (values.lookup name).join) arguments with
  | .ok s => Main.run s
  | .error fault =>
    (if fault.status = 0 then IO.println else IO.eprintln) fault.message
    return fault.status
