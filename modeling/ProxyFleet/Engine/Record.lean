import ProxyFleet.Keyed
import ProxyFleet.Text.Utf8

/-!
What a container engine reports about its containers, networks, swarm services and configs, as far
as proxy configuration depends on it.
-/

namespace ProxyFleet.Engine

abbrev Labels := Keyed String

/-- A container's place on one network. -/
structure Attachment where
  networkId : String := ""
  address : String := ""
deriving DecidableEq, Repr, Inhabited

structure Container where
  id : String
  names : List String := []
  image : String := ""
  state : String := ""
  status : String := ""
  labels : Labels := Keyed.empty
  /-- By the name of the network. -/
  networks : Keyed Attachment := Keyed.empty
deriving DecidableEq, Repr, Inhabited

/-- One container as seen on inspection. -/
structure Details where
  id : String
  name : String := ""
  networks : Keyed Attachment := Keyed.empty
deriving DecidableEq, Repr, Inhabited

structure Network where
  id : String
  name : String := ""
  /-- The network that routes a swarm's published ports. -/
  ingress : Bool := false
  /-- As text, which need not be a subnet. -/
  subnets : List String := []
deriving DecidableEq, Repr, Inhabited

/-- The address of a service as a whole on one network. -/
structure VirtualIp where
  networkId : String := ""
  /-- With the length of its subnet. -/
  address : String := ""
deriving DecidableEq, Repr, Inhabited

structure Service where
  id : String
  name : String := ""
  labels : Labels := Keyed.empty
  virtualIps : List VirtualIp := []
deriving DecidableEq, Repr, Inhabited

/-- The addresses of a task on one network. -/
structure TaskAttachment where
  networkId : String := ""
  addresses : List String := []
deriving DecidableEq, Repr, Inhabited

structure Task where
  id : String
  serviceId : String := ""
  state : String := ""
  attachments : List TaskAttachment := []
deriving DecidableEq, Repr, Inhabited

/-- A file that a swarm keeps for its services. -/
structure Config where
  id : String
  name : String := ""
  labels : Labels := Keyed.empty
  data : Text.Bytes := []
deriving DecidableEq, Repr, Inhabited

structure Info where
  nodeState : String := ""
deriving DecidableEq, Repr, Inhabited

/-- A change that an engine announces. -/
structure Event where
  kind : String := ""
  action : String := ""
  actorId : String := ""
  attributes : Labels := Keyed.empty
  scope : String := ""
deriving DecidableEq, Repr, Inhabited

def Task.isRunning (t : Task) : Bool := t.state = "running"

def Info.isSwarmActive (i : Info) : Bool := i.nodeState = "active"

end ProxyFleet.Engine
