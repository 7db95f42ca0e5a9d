import ProxyFleet.Delivery.AdapterUrl
import ProxyFleet.Json.Bytes
import ProxyFleet.Json.Fields
import ProxyFleet.Json.Printer
import ProxyFleet.Net.Exchange

/-!
Converting Caddyfiles and loading what they are converted to, through the administration interfaces
of servers.
-/

namespace ProxyFleet.Delivery

open Net (Peer Response Sent ExchangeFault)

/-- Sends a body to a server. -/
def post (p : Peer) (authority path contentType body : String) : Sent Response :=
  let refusal := p.refusal.map fun f => f.context ("failed to connect to " ++ authority)
  let p := { p with refusal }
  p.send "POST" path authority (some contentType) body

/-! Conversion. -/

/-- How many lists and objects may stand within one another in a document. -/
def deepest : Nat := 127

/-- A part of a document with others around it, whatever it is. -/
def anything? (around : Nat) (j : Json) : Option Json :=
  if j.isReadable && around + j.depth ≤ deepest then some j.normal else none

/-- The result of a conversion in a document; warnings may come with it. -/
def resultOf? (j : Json) : Option Json := do
  match ← Json.fields? ["result", "warnings"] j with
  | [result, warnings] =>
    let _ ← Json.optional [] (Json.list? (anything? 2)) warnings
    Json.optional .null (anything? 1) result
  | _ => none

def errorOf? (j : Json) : Option String := do
  match ← Json.fields? ["error"] j with
  | [error] => Json.required Json.text? error
  | _ => none

/-- Why a conversion was refused. -/
def refusal (r : Response) : Failure :=
  match (Json.ofBytes? r.body).bind errorOf? with
  | some error => ⟨error, []⟩
  | none => ⟨"adapt failed with " ++ r.complaint, []⟩

def conversionIn (r : Response) : Except ExchangeFault Json := do
  let body ← Net.wholeBody r
  if r.status ≠ 200 then .error (.failed (refusal r))
  else
    match (Json.ofBytes? body).bind resultOf? with
    | some result => .ok result
    | none => .error (.undecodable "invalid adapt response")

def AdapterUrl.convert (u : AdapterUrl) (p : Peer) (caddyfile : String) : Sent Json :=
  (post p u.authority u.path "text/caddyfile" caddyfile).thenTry conversionIn

/-! Loading. -/

/-- The configuration with an administration interface that listens at a place and nothing else. -/
def withAdminListen (config : Json) (listen : String) : Json :=
  let members := match config with
    | .obj members => members
    | _ => []
  Json.putMember members "admin" (Json.object [("listen", .str listen)])

def acknowledgementIn (r : Response) : Except ExchangeFault Unit := do
  let _ ← Net.wholeBody r
  if r.status ≠ 200 then .error (.failed ⟨"server responded with " ++ r.complaint, []⟩)
  else .ok ()

/-- Tells a server to load a configuration. It goes on listening where it was told to. -/
def load (p : Peer) (port : Nat) (server : String) (config : Json) : Sent Unit :=
  let authority := Net.authority server port
  let body := (withAdminListen config ("tcp/" ++ authority)).text
  (post p authority "/load" "application/json" body).thenTry acknowledgementIn

end ProxyFleet.Delivery
