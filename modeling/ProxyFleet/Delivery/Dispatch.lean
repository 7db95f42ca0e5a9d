import ProxyFleet.Delivery.Registry
import ProxyFleet.Json.Basic

/-!
Rollouts of a version to a list of servers. A rollout has one push for every server on its list;
pushes of several rollouts may be in progress at once and go on in any order, each of them in steps
between which the others may do theirs. A push that may not start is skipped, a load that fails
leaves the server to a later rollout.
-/

namespace ProxyFleet.Delivery

/-- What a push has come to. -/
inductive Outcome where
  | ok
  | skipped
  | failed
deriving DecidableEq, Repr, Inhabited

def Outcome.text : Outcome → String
  | .ok => "ok"
  | .skipped => "skipped"
  | .failed => "failed"

/-- How many pushes have come to what. -/
structure Tally where
  ok : Nat := 0
  skipped : Nat := 0
  failed : Nat := 0
deriving DecidableEq, Repr, Inhabited

namespace Tally

def add (t : Tally) : Outcome → Tally
  | .ok => { t with ok := t.ok + 1 }
  | .skipped => { t with skipped := t.skipped + 1 }
  | .failed => { t with failed := t.failed + 1 }

def count (t : Tally) : Outcome → Nat
  | .ok => t.ok
  | .skipped => t.skipped
  | .failed => t.failed

end Tally

/-- A server is told to load a configuration. -/
structure Load where
  server : String
  version : Nat
  config : Json
deriving Repr, Inhabited

/-- By what a push to load it is known to the registry. -/
def Load.update (l : Load) : Update := ⟨l.server, l.version⟩

/-- Where a push is. -/
inductive Push where
  | waiting
  /-- It is registered, and its server has not been told yet. -/
  | admitted
  | loading
  /-- The server has loaded, and the registry knows. -/
  | recorded
  | done (outcome : Outcome)
  /-- It was given up. -/
  | cancelled
deriving DecidableEq, Repr, Inhabited

namespace Push

def isDone : Push → Bool
  | .done _ => true
  | _ => false

/-- The version of the push is not yet recorded. -/
def isPending : Push → Bool
  | .admitted | .loading => true
  | _ => false

/-- The push is registered and has not ended. -/
def isLive : Push → Bool
  | .admitted | .loading | .recorded => true
  | _ => false

theorem isLive_of_isPending {p : Push} (h : p.isPending = true) : p.isLive = true := by
  cases p with
  | admitted | loading => rfl
  | waiting | recorded | done | cancelled => cases h

end Push

/-- What a push can do next. -/
inductive Move where
  /-- It asks whether it may start. -/
  | ask
  /-- It tells its server to load. -/
  | send
  /-- The server has loaded, which is recorded. -/
  | record
  /-- It ends when that has been recorded. -/
  | release
  /-- The load has failed. -/
  | fail
  /-- It is given up, before it starts or while its server loads. -/
  | cancel
deriving DecidableEq, Repr, Inhabited

/-- What all pushes share. -/
structure Ledger where
  registry : Registry := {}
  tally : Tally := {}
  /-- Every load that was begun, in order. -/
  loads : List Load := []
  /-- Every push that was recorded, in order. -/
  acknowledged : List Update := []
deriving Repr, Inhabited

/-- The ledger and a push after a move that the push can make. -/
def Ledger.advance (l : Ledger) (load : Load) : Push → Move → Option (Ledger × Push)
  | .waiting, .ask =>
    match l.registry.start load.server load.version with
    | (.started _, registry) => some ({ l with registry }, .admitted)
    | (_, registry) => some ({ l with registry, tally := l.tally.add .skipped }, .done .skipped)
  | .admitted, .send => some ({ l with loads := l.loads ++ [load] }, .loading)
  | .loading, .record =>
    some ({ l with
      registry := l.registry.record load.update,
      acknowledged := l.acknowledged ++ [load.update] }, .recorded)
  | .recorded, .release =>
    some ({ l with registry := l.registry.drop load.update, tally := l.tally.add .ok }, .done .ok)
  | .loading, .fail =>
    some ({ l with
      registry := l.registry.drop load.update, tally := l.tally.add .failed }, .done .failed)
  | .waiting, .cancel => some (l, .cancelled)
  | .loading, .cancel => some ({ l with registry := l.registry.drop load.update }, .cancelled)
  | _, _ => none

structure Rollout where
  version : Nat
  config : Json
  /-- By server. -/
  pushes : List (String × Push)
deriving Repr, Inhabited

namespace Rollout

def new (version : Nat) (config : Json) (servers : List String) : Rollout :=
  ⟨version, config, servers.map (·, .waiting)⟩

/-- What the servers of the rollout are told. -/
def load (r : Rollout) (server : String) : Load := ⟨server, r.version, r.config⟩

def isDone (r : Rollout) : Bool := r.pushes.all fun p => p.2.isDone

def setPush (r : Rollout) (i : Nat) (p : Push) : Rollout :=
  { r with pushes := r.pushes.modify i fun q => (q.1, p) }

end Rollout

/-- All rollouts and what they share. -/
structure Dispatch extends Ledger where
  rollouts : List Rollout := []
deriving Repr, Inhabited

/-- A move of the push at a place in a rollout. -/
structure Step where
  rollout : Nat
  push : Nat
  move : Move
deriving DecidableEq, Repr, Inhabited

namespace Dispatch

def add (s : Dispatch) (r : Rollout) : Dispatch := { s with rollouts := s.rollouts ++ [r] }

def push? (s : Dispatch) (d i : Nat) : Option (Load × Push) := do
  let rollout ← s.rollouts[d]?
  let (server, push) ← rollout.pushes[i]?
  some (rollout.load server, push)

def setPush (s : Dispatch) (d i : Nat) (p : Push) : Dispatch :=
  { s with rollouts := s.rollouts.modify d fun rollout => rollout.setPush i p }

/-- One step, if it can be taken. -/
def step? (s : Dispatch) (x : Step) : Option Dispatch := do
  let (load, push) ← s.push? x.rollout x.push
  let (ledger, push) ← s.advance load push x.move
  some ({ s with toLedger := ledger }.setPush x.rollout x.push push)

/-- Takes those of the steps that can be taken. -/
def steps (s : Dispatch) (xs : List Step) : Dispatch :=
  xs.foldl (fun s x => (s.step? x).getD s) s

/-- A push asks whether it may start, and if so its server is told to load. -/
def begin (s : Dispatch) (d i : Nat) : Dispatch := s.steps [⟨d, i, .ask⟩, ⟨d, i, .send⟩]

/-- The load of a push has succeeded or failed. -/
def finish (s : Dispatch) (d i : Nat) (succeeded : Bool) : Dispatch :=
  s.steps (if succeeded then [⟨d, i, .record⟩, ⟨d, i, .release⟩] else [⟨d, i, .fail⟩])

/-- Gives up all rollouts but the first few. -/
def abort (s : Dispatch) (kept : Nat) : Dispatch :=
  s.steps ((s.rollouts.zipIdx.drop kept).flatMap fun (rollout, d) =>
    (List.range rollout.pushes.length).map fun i => ⟨d, i, .cancel⟩)

end Dispatch

end ProxyFleet.Delivery
