import ProxyFleet.Fleet.Journal
import ProxyFleet.Fleet.NetworkGroup

/-!
The addresses of workloads on the networks of a group. A container has one address on each of its
networks, a service those of its running tasks or, as a whole, its name. Without a group every
network counts.
-/

namespace ProxyFleet.Fleet

open Engine (Attachment Container Service Task TaskAttachment VirtualIp)

/-- Whether a container's place on the network `name` counts. A network that is asked for by name
is the only one that counts. -/
def counts (group : Option NetworkGroup) (only : Option String) (name : String) (a : Attachment) :
    Bool :=
  match only, group with
  | some network, _ => name = network
  | none, some g => g.hasId a.networkId || g.hasName name || g.containsText a.address
  | none, none => true

/-- On the network of the host itself a container needs no address of its own. -/
def addressOn (name : String) (a : Attachment) : Option String :=
  if a.address ≠ "" then some a.address
  else if name = "host" then some "127.0.0.1"
  else none

def containerAddresses (group : Option NetworkGroup) (only : Option String) (c : Container) :
    List String :=
  (c.networks.entries.filter fun e => counts group only e.1 e.2).filterMap fun e =>
    addressOn e.1 e.2

/-- The addresses of a container, with a note if there are none. -/
def findContainer (group : Option NetworkGroup) (only : Option String) (c : Container) :
    Journaled (List String) := do
  let addresses := containerAddresses group only c
  if addresses.isEmpty then
    note .warn "Container is not in same network as caddy" [("container", c.id)]
  pure addresses

/-- The addresses of a task that belong to the group, without the lengths of their subnets. -/
def attachmentAddresses (group : Option NetworkGroup) (a : TaskAttachment) : List String :=
  let included (address : Net.Address) : Bool :=
    group.all fun g => g.hasId a.networkId || g.contains address
  ((a.addresses.filterMap Net.Address.parseWithin?).filter included).map Net.Address.text

def taskAddresses (group : Option NetworkGroup) (t : Task) : List String :=
  t.attachments.flatMap (attachmentAddresses group)

def aboutService (s : Service) : List (String × String) :=
  [("service", s.name), ("service.id", s.id)]

def noteOutside (s : Service) : Journaled Unit :=
  note .warn "Service is not in network group" (aboutService s)

/-- The addresses of the running tasks of a service, on whichever engine they run. -/
def findTasks (engines : List Numbered) (group : Option NetworkGroup) (s : Service) :
    Journaled (Except Failure (List String)) := do
  match ← Journaled.gather (fun e => ask e (.tasks s.id)) engines with
  | .error failure => pure (.error failure)
  | .ok tasks =>
    let running := tasks.filter Task.isRunning
    let addresses := running.flatMap (taskAddresses group)
    if running.isEmpty then
      note .warn "Service has no tasks in running state" (aboutService s)
    else if addresses.isEmpty then
      noteOutside s
    pure (.ok addresses)

/-- A service as a whole is in the group by any of its virtual addresses. -/
def isReachable (group : Option NetworkGroup) (s : Service) : Bool :=
  s.virtualIps.any fun v => group.all fun g => g.hasId v.networkId || g.containsText v.address

/-- What to proxy to for a service. Its name stands for all its tasks. -/
def findService (proxyTasks : Bool) (engines : List Numbered) (group : Option NetworkGroup)
    (s : Service) : Journaled (Except Failure (List String)) := do
  if proxyTasks then findTasks engines group s
  else
    if !isReachable group s then noteOutside s
    pure (.ok [s.name])

end ProxyFleet.Fleet
