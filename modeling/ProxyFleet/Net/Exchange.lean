import ProxyFleet.Failure
import ProxyFleet.Net.StatusText
import ProxyFleet.Net.Uri
import ProxyFleet.Text.Blank
import ProxyFleet.Text.Utf8

/-!
Requests and their responses. Every request has a connection of its own, which may be refused; a
response may break off before its end, or not come at all.
-/

namespace ProxyFleet.Net

structure Request where
  method : String
  target : String
  host : String
  contentType : Option String := none
  body : String := ""
deriving DecidableEq, Repr, Inhabited

structure Response where
  status : Nat
  /-- The body in the pieces in which it arrives. -/
  frames : List Text.Bytes
  /-- The body arrives to its end. -/
  isComplete : Bool := true
deriving DecidableEq, Repr, Inhabited

namespace Response

/-- Responses with these statuses end before their bodies. -/
def hasNoBody (status : Nat) : Bool := status < 200 || status = 204 || status = 304

/-- A response without what cannot be its body. -/
def trimmed (r : Response) : Response := if hasNoBody r.status then ⟨r.status, [], true⟩ else r

def body (r : Response) : Text.Bytes := r.frames.flatten

def isSuccess (r : Response) : Bool := 200 ≤ r.status && r.status < 300

/-- What is said of a response that is not wanted: its status and its body. -/
def complaint (r : Response) : String :=
  statusText r.status ++ ": " ++ Text.trim (Text.lossy r.body)

end Response

/-- Why no response comes. -/
inductive Breakdown where
  /-- The connection ends too early. -/
  | closed
  /-- What comes is nothing that this protocol knows. -/
  | garbled
  | noStatus
deriving DecidableEq, Repr, Inhabited

def Breakdown.failure : Breakdown → Failure
  | .closed => ⟨"connection closed before message completed", []⟩
  | .garbled => ⟨"invalid HTTP version parsed", []⟩
  | .noStatus => ⟨"invalid HTTP status-code parsed", []⟩

/-- A peer to which connections can be made. -/
structure Peer where
  /-- Why no connection can be made. -/
  refusal : Option Failure := none
  respond : Request → Except Breakdown Response

inductive ExchangeFault where
  | failed (failure : Failure)
  /-- The connection broke before the end of the response. -/
  | brokeOff (failure : Failure)
  /-- The body is not what was expected, while doing something if that is known. -/
  | undecodable (doing : String)
deriving DecidableEq, Repr, Inhabited

/-- Says what was being done when a request failed. -/
def ExchangeFault.context (doing : String) : ExchangeFault → ExchangeFault
  | .failed f => .failed (f.context doing)
  | .brokeOff f => .brokeOff (f.context doing)
  | .undecodable doing => .undecodable doing

def ExchangeFault.failure : ExchangeFault → Failure
  | .failed f | .brokeOff f => f
  | .undecodable doing => ⟨doing, []⟩

/-- A result and the requests made for it. -/
structure Sent (α : Type) where
  result : Except ExchangeFault α
  requests : List Request := []

namespace Sent

variable {α β : Type}

def fail (fault : ExchangeFault) : Sent α := ⟨.error fault, []⟩

def mapFault (f : ExchangeFault → ExchangeFault) (s : Sent α) : Sent α :=
  { s with result := s.result.mapError f }

def thenTry (s : Sent α) (f : α → Except ExchangeFault β) : Sent β :=
  { s with result := s.result.bind f }

end Sent

/-- Sends a request whose target is a text that may make no sense as one. -/
def Peer.send (p : Peer) (method path host : String) (contentType : Option String)
    (body : String) : Sent Response :=
  match p.refusal with
  | some failure => Sent.fail (.failed failure)
  | none =>
    match Uri.parse path with
    | .error fault => Sent.fail (.failed ⟨fault.message, []⟩)
    | .ok uri =>
      let request : Request := ⟨method, String.ofList uri.target, host, contentType, body⟩
      ⟨(p.respond request).mapError fun b => .brokeOff b.failure, [request]⟩

/-- What a body that breaks off fails with. -/
def brokenBody : ExchangeFault :=
  .brokeOff ⟨"error reading a body from connection",
    ["end of file before message length reached"]⟩

/-- The body of a response that does not break off. -/
def wholeBody (r : Response) : Except ExchangeFault Text.Bytes :=
  if r.isComplete then .ok r.body else .error brokenBody

end ProxyFleet.Net
