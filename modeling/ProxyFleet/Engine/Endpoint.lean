import ProxyFleet.Failure
import ProxyFleet.Net.Url
import ProxyFleet.Text.Display

/-!
Where an engine listens: at a Unix socket, given by a path or a URL, or at a host and port, given by
a URL. A port that the scheme of the URL implies counts as not given.
-/

namespace ProxyFleet.Engine

inductive Endpoint where
  | unix (path : String)
  /-- As `host:port`. -/
  | tcp (address : String)
deriving DecidableEq, Repr, Inhabited

namespace Endpoint

def defaultPort : Nat := 2375

inductive Fault where
  | badUrl (text : String) (fault : Net.UrlFault)
  | noHost (text : String)
  | otherScheme (scheme : String)
deriving DecidableEq, Repr, Inhabited

def Fault.failure : Fault → Failure
  | .badUrl text fault => ⟨"invalid docker endpoint " ++ Text.quoted text, [fault.message]⟩
  | .noHost text => ⟨"docker endpoint " ++ Text.quoted text ++ " has no host", []⟩
  | .otherScheme scheme => ⟨"unsupported docker endpoint scheme " ++ Text.quoted scheme, []⟩

/-- The endpoint that a URL names. -/
def ofUrl (text : String) (url : Net.Url) : Except Fault Endpoint :=
  if url.scheme = "unix" then .ok (.unix url.path)
  else if url.scheme = "tcp" || url.scheme = "http" then
    if url.host = "" then .error (.noHost text)
    else .ok (.tcp (url.host ++ ":" ++ toString (url.port.getD defaultPort)))
  else .error (.otherScheme url.scheme)

def parse (text : String) : Except Fault Endpoint :=
  if text.startsWith "/" then .ok (.unix text)
  else
    match Net.Url.parse text with
    | .error fault => .error (.badUrl text fault)
    | .ok url => ofUrl text url

def text : Endpoint → String
  | .unix path => "unix://" ++ path
  | .tcp address => "tcp://" ++ address

end Endpoint

end ProxyFleet.Engine
