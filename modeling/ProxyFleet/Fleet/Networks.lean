import ProxyFleet.Fleet.Journal
import ProxyFleet.Fleet.NetworkGroup

/-!
Finding the networks of a group on all engines: those with the names asked for, or, if no name is
asked for, those of the container in which the controller itself runs. Networks that route the
published ports of a swarm belong to no group.
-/

namespace ProxyFleet.Fleet

open Engine (Attachment Details Network)

def memberOf (n : Network) : List Member := if n.ingress then [] else [Member.ofNetwork n]

/-- The networks of one container on one engine. -/
def attachedTo (id : String) (e : Numbered) : Journaled (Except Failure (List Member)) := do
  match ← ask e (.container id) with
  | .error failure => pure (.error (failure.context ("failed to inspect container " ++ id)))
  | .ok details =>
    Journaled.gather
      (fun a : Attachment => do
        match ← ask e (.network a.networkId) with
        | .error failure => pure (.error failure)
        | .ok network => pure (.ok (memberOf network)))
      details.networks.values

/-- The networks with a name, or else the subnet that the name spells. -/
def selected (networks : List Network) (name : String) : List Member :=
  let found := networks.filter fun n => !n.ingress && n.name = name
  if found.isEmpty then
    match Net.Subnet.parse? name with
    | some subnet => [{ subnets := [subnet.truncated] }]
    | none => []
  else found.map Member.ofNetwork

def noteUnknown (group : String) (networks : List Network) : List String → Journaled Unit
  | [] => pure ()
  | name :: rest => do
    if (selected networks name).isEmpty then
      note .warn "Network not found" [("group", group), ("network", name)]
    noteUnknown group networks rest

/-- The networks with the names asked for on one engine. -/
def selectedOn (group : String) (names : List String) (e : Numbered) :
    Journaled (Except Failure (List Member)) := do
  match ← ask e .networks with
  | .error failure => pure (.error failure)
  | .ok networks =>
    noteUnknown group networks names
    pure (.ok (names.flatMap (selected networks)))

/-- The members of a group on all engines. The own container is `own`. -/
def findMembers (group : String) (names : List String) (own : Except Failure String)
    (engines : List Numbered) : Journaled (Except Failure (List Member)) :=
  if names.isEmpty then
    match own with
    | .error failure => pure (.error failure)
    | .ok id => Journaled.gather (attachedTo id) engines
  else Journaled.gather (selectedOn group names) engines

/-- A group that was found before is kept; else it is looked for, and a failure is noted. -/
def settleGroup (known : Option NetworkGroup) (group : String) (names : List String)
    (own : Except Failure String) (engines : List Numbered) :
    Journaled (Option NetworkGroup) := do
  match known with
  | some g => pure (some g)
  | none =>
    match ← findMembers group names own engines with
    | .ok members => pure (some ⟨group, members⟩)
    | .error failure =>
      noteFailure ("Failed to get " ++ group ++ " networks") failure
      pure none

end ProxyFleet.Fleet
