import ProxyFleet.Admin.Page
import ProxyFleet.Net.Message

/-!
Pages as replies to what is received on a connection.
-/

namespace ProxyFleet.Admin

open Text (Bytes utf8)

/-- The length is that of the body, also where only the head is asked for. -/
def Page.reply (p : Page) (isHead : Bool) : Bytes :=
  let body := utf8 p.body
  Net.messageBytes
    ["HTTP/1.1 " ++ Net.statusText p.status, "content-type: " ++ p.contentType,
      "content-length: " ++ toString body.length, "connection: close"]
    (if isHead then [] else body)

def malformed : Bytes :=
  Net.messageBytes ["HTTP/1.1 " ++ Net.statusText 400, "content-length: 0", "connection: close"] []

/-- The reply to a request, once its head has been received. -/
def Status.reply? (s : Status) (received : Bytes) : Option Bytes := do
  let message ← Net.Message.ofBytes? received
  match message.start.splitOn " " with
  | [method, target, _] =>
    match Net.Uri.parse target with
    | .ok uri => some ((s.answer method uri).reply (method = "HEAD"))
    | .error _ => some malformed
  | _ => some malformed

end ProxyFleet.Admin
