import ProxyFleet.Admin.Metrics
import ProxyFleet.Json.Printer
import ProxyFleet.Net.Subnet
import ProxyFleet.Net.Uri

/-!
The pages of the controller for whoever operates it: whether it runs, whether a first cycle is done,
its metrics, and the subnets on which it reaches servers.
-/

namespace ProxyFleet.Admin

/-- What the pages show. -/
structure Status where
  ready : Bool := false
  subnets : List Net.Subnet := []
  metrics : Metrics := {}
deriving DecidableEq, Repr, Inhabited

structure Page where
  status : Nat
  contentType : String
  body : String
deriving DecidableEq, Repr, Inhabited

def plain (status : Nat) (body : String) : Page := ⟨status, "text/plain", body⟩

/-- The page at a path. -/
def Status.page (s : Status) (path : String) : Page :=
  if path = "/live" then plain 200 "live\n"
  else if path = "/ready" then if s.ready then plain 200 "ready\n" else plain 500 "not ready\n"
  else if path = "/metrics" then
    ⟨200, "application/openmetrics-text; version=1.0.0; charset=utf-8", s.metrics.text⟩
  else if path = "/controller-subnets" then
    ⟨200, "application/json", (Json.strings (s.subnets.map Net.Subnet.text)).text⟩
  else plain 404 ""

/-- The answer to a request. Pages can only be read. -/
def Status.answer (s : Status) (method : String) (target : Net.Uri) : Page :=
  if method = "GET" || method = "HEAD" then s.page (String.ofList target.path) else plain 405 ""

end ProxyFleet.Admin
