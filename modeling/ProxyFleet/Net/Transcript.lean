import ProxyFleet.Net.Exchange

/-!
What is known of the peers at some places: the requests they have been sent, and what came of them.
Whatever sends requests can be run on a transcript; the first request that is not in it depends only
on what is, so adding it again and again leads to a run on nothing but true responses.
-/

namespace ProxyFleet.Net

/-- A request to the peer at a place. -/
structure Posted where
  place : String
  request : Request
deriving DecidableEq, Repr, Inhabited

structure Transcript where
  responses : List (Posted × Except Breakdown Response) := []
  /-- Why no connection could be made to some places. -/
  refusals : List (String × Failure) := []
deriving Repr, Inhabited

namespace Transcript

def knows (t : Transcript) (p : Posted) : Bool :=
  (t.responses.lookup p).isSome || (t.refusals.lookup p.place).isSome

/-- What stands for a response that is not known yet. -/
def unknown : Response := ⟨503, [], true⟩

def peer (t : Transcript) (place : String) : Peer :=
  ⟨t.refusals.lookup place, fun request => (t.responses.lookup ⟨place, request⟩).getD (.ok unknown)⟩

/-- Adds what came of a request. -/
def add (t : Transcript) (p : Posted) : Except Failure (Except Breakdown Response) → Transcript
  | .ok response => { t with responses := (p, response) :: t.responses }
  | .error failure => { t with refusals := (p.place, failure) :: t.refusals }

/-- The first of some requests that is not known yet. -/
def missing? (t : Transcript) (posted : List Posted) : Option Posted :=
  posted.find? fun p => !t.knows p

end Transcript

end ProxyFleet.Net
