import ProxyFleet.Text.Display

/-!
What is to be configured, and from which workloads.
-/

namespace ProxyFleet.Fleet

/-- Which servers get the configuration. -/
inductive Mode where
  /-- The servers found among the workloads and the local one. -/
  | standalone
  /-- Only the servers found among the workloads. -/
  | controller
deriving DecidableEq, Repr, Inhabited

namespace Mode

def text : Mode → String
  | .standalone => "standalone"
  | .controller => "controller"

def parse? (text : String) : Option Mode :=
  if text = "standalone" then some .standalone
  else if text = "controller" then some .controller
  else none

/-- What is said about a text that names no mode. -/
def unknown (text : String) : String :=
  "invalid mode " ++ Text.quoted text ++ ", expected standalone or controller"

theorem parse?_text (m : Mode) : parse? m.text = some m := by
  cases m <;> rfl

end Mode

def serverLabelOf (labelPrefix : String) : String := labelPrefix ++ "_controlled_server"

structure Options where
  mode : Mode := .standalone
  labelPrefix : String := "caddy"
  /-- Marks the workloads that are servers to be configured. -/
  serverLabel : String := serverLabelOf "caddy"
  /-- Proxy to the tasks of a service and not to the service as a whole. -/
  proxyTasks : Bool := true
  /-- Validate the sites one by one and drop the invalid ones. -/
  prune : Bool := true
  scanStopped : Bool := false
  /-- The names of the networks on which workloads are reached; those of the controller's own
  container if there are none. -/
  ingressNetworks : List String := []
  /-- The network on which servers are reached, by name or as a subnet. -/
  controllerNetwork : Option String := none
  /-- The domain in which hosts have a second name. -/
  localDomain : Option String := none
deriving DecidableEq, Repr, Inhabited

def Options.withPrefix (labelPrefix : String) : Options :=
  { labelPrefix, serverLabel := serverLabelOf labelPrefix }

/-- The label by which a container names the one network on which it is reached. -/
def Options.ingressLabel (o : Options) : String := o.labelPrefix ++ "_ingress_network"

end ProxyFleet.Fleet
