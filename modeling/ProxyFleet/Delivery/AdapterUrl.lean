import ProxyFleet.Failure
import ProxyFleet.Net.Address
import ProxyFleet.Net.Uri
import ProxyFleet.Text.Display

/-!
Where Caddyfiles are converted: a host and port and the path to send them to, from the URL of an
administration interface.
-/

namespace ProxyFleet.Delivery

structure AdapterUrl where
  authority : String
  path : String
deriving DecidableEq, Repr, Inhabited

namespace AdapterUrl

/-- The port of administration interfaces. -/
def adminPort : Nat := 2019

inductive Fault where
  | badUri (text : String) (fault : Net.UriFault)
  | otherScheme (text : String)
  | noHost (text : String)
deriving DecidableEq, Repr, Inhabited

def Fault.failure : Fault → Failure
  | .badUri text fault => ⟨"invalid adapter URL " ++ Text.quoted text, [fault.message]⟩
  | .otherScheme text => ⟨"adapter URL " ++ Text.quoted text ++ " must use http", []⟩
  | .noHost text => ⟨"adapter URL " ++ Text.quoted text ++ " has no host", []⟩

/-- A host without the brackets around it. -/
def unbracketed (cs : List Char) : String :=
  String.ofList ((cs.dropWhile (· = '[')).reverse.dropWhile (· = ']')).reverse

/-- The path for conversions below the path of the URL. -/
def pathBelow (cs : List Char) : String :=
  String.ofList (cs.reverse.dropWhile (· = '/')).reverse ++ "/adapt"

def ofUri (text : String) (uri : Net.Uri) : Except Fault AdapterUrl :=
  if uri.scheme.any (· ≠ "http") then .error (.otherScheme text)
  else
    match uri.host? with
    | none => .error (.noHost text)
    | some host =>
      .ok ⟨Net.authority (unbracketed host) (uri.port?.getD adminPort), pathBelow uri.path⟩

def parse (text : String) : Except Fault AdapterUrl :=
  match Net.Uri.parse text with
  | .error fault => .error (.badUri text fault)
  | .ok uri => ofUri text uri

end AdapterUrl

end ProxyFleet.Delivery
