import ProxyFleet.Engine.Record
import ProxyFleet.Json.Fields
import ProxyFleet.Text.Base64

/-!
The JSON forms of the engine's records. The names in an encoded record are those that label
templates use; a container or a network is identified by `Id` when it is read and by `ID` when it is
written, every other record by `ID`.
-/

namespace ProxyFleet.Engine

open ProxyFleet.Json (fields? text? flag? list? map? required optional nullable object strings)

def textMap (labels : Labels) : Json := Json.ofKeyed (labels.map .str)

def labels? (given : Option Json) : Option Labels := nullable Keyed.empty (map? text?) given

def texts? (given : Option Json) : Option (List String) := nullable [] (list? text?) given

def textOr (given : Option Json) : Option String := optional "" text? given

namespace Attachment

def json (a : Attachment) : Json :=
  object [("IPAddress", .str a.address), ("NetworkID", .str a.networkId)]

def ofJson? (j : Json) : Option Attachment := do
  match ← fields? ["NetworkID", "IPAddress"] j with
  | [networkId, address] =>
    let networkId ← textOr networkId
    let address ← textOr address
    some ⟨networkId, address⟩
  | _ => none

end Attachment

/-- The networks of a container, which are one level further down. -/
def networksJson (networks : Keyed Attachment) : Json :=
  object [("Networks", Json.ofKeyed (networks.map Attachment.json))]

def networksOf? (j : Json) : Option (Keyed Attachment) := do
  match ← fields? ["Networks"] j with
  | [networks] => nullable Keyed.empty (map? Attachment.ofJson?) networks
  | _ => none

namespace Container

def json (c : Container) : Json :=
  object [("ID", .str c.id), ("Names", strings c.names), ("Image", .str c.image),
    ("State", .str c.state), ("Status", .str c.status), ("Labels", textMap c.labels),
    ("NetworkSettings", networksJson c.networks)]

def ofJson? (j : Json) : Option Container := do
  match ← fields? ["Id", "Names", "Image", "State", "Status", "Labels", "NetworkSettings"] j with
  | [id, names, image, state, status, labels, networks] =>
    let id ← required text? id
    let names ← texts? names
    let image ← textOr image
    let state ← textOr state
    let status ← textOr status
    let labels ← labels? labels
    let networks ← nullable Keyed.empty networksOf? networks
    some ⟨id, names, image, state, status, labels, networks⟩
  | _ => none

end Container

namespace Details

def json (d : Details) : Json :=
  object [("ID", .str d.id), ("Name", .str d.name), ("NetworkSettings", networksJson d.networks)]

def ofJson? (j : Json) : Option Details := do
  match ← fields? ["Id", "Name", "NetworkSettings"] j with
  | [id, name, networks] =>
    let id ← required text? id
    let name ← textOr name
    let networks ← nullable Keyed.empty networksOf? networks
    some ⟨id, name, networks⟩
  | _ => none

end Details

namespace Network

def subnetJson (subnet : String) : Json := object [("Subnet", .str subnet)]

def subnetOf? (j : Json) : Option String := do
  match ← fields? ["Subnet"] j with
  | [subnet] => textOr subnet
  | _ => none

def subnetsOf? (j : Json) : Option (List String) := do
  match ← fields? ["Config"] j with
  | [config] => nullable [] (list? subnetOf?) config
  | _ => none

def json (n : Network) : Json :=
  object [("ID", .str n.id), ("Name", .str n.name), ("Ingress", .bool n.ingress),
    ("IPAM", object [("Config", .arr (n.subnets.map subnetJson))])]

def ofJson? (j : Json) : Option Network := do
  match ← fields? ["Id", "Name", "Ingress", "IPAM"] j with
  | [id, name, ingress, ipam] =>
    let id ← required text? id
    let name ← textOr name
    let ingress ← optional false flag? ingress
    let subnets ← nullable [] subnetsOf? ipam
    some ⟨id, name, ingress, subnets⟩
  | _ => none

end Network

namespace VirtualIp

def json (v : VirtualIp) : Json :=
  object [("NetworkID", .str v.networkId), ("Addr", .str v.address)]

def ofJson? (j : Json) : Option VirtualIp := do
  match ← fields? ["NetworkID", "Addr"] j with
  | [networkId, address] =>
    let networkId ← textOr networkId
    let address ← textOr address
    some ⟨networkId, address⟩
  | _ => none

end VirtualIp

namespace Service

def specOf? (j : Json) : Option (String × Labels) := do
  match ← fields? ["Name", "Labels"] j with
  | [name, labels] =>
    let name ← textOr name
    let labels ← labels? labels
    some (name, labels)
  | _ => none

def virtualIpsOf? (j : Json) : Option (List VirtualIp) := do
  match ← fields? ["VirtualIPs"] j with
  | [ips] => nullable [] (list? VirtualIp.ofJson?) ips
  | _ => none

def json (s : Service) : Json :=
  object [("ID", .str s.id),
    ("Spec", object [("Name", .str s.name), ("Labels", textMap s.labels)]),
    ("Endpoint", object [("VirtualIPs", .arr (s.virtualIps.map VirtualIp.json))])]

def ofJson? (j : Json) : Option Service := do
  match ← fields? ["ID", "Spec", "Endpoint"] j with
  | [id, spec, endpoint] =>
    let id ← required text? id
    let (name, labels) ← optional ("", Keyed.empty) specOf? spec
    let virtualIps ← nullable [] virtualIpsOf? endpoint
    some ⟨id, name, labels, virtualIps⟩
  | _ => none

end Service

namespace TaskAttachment

def networkIdOf? (j : Json) : Option String := do
  match ← fields? ["ID"] j with
  | [id] => textOr id
  | _ => none

def json (a : TaskAttachment) : Json :=
  object [("Network", object [("ID", .str a.networkId)]), ("Addresses", strings a.addresses)]

def ofJson? (j : Json) : Option TaskAttachment := do
  match ← fields? ["Network", "Addresses"] j with
  | [network, addresses] =>
    let networkId ← optional "" networkIdOf? network
    let addresses ← texts? addresses
    some ⟨networkId, addresses⟩
  | _ => none

end TaskAttachment

namespace Task

def stateOf? (j : Json) : Option String := do
  match ← fields? ["State"] j with
  | [state] => textOr state
  | _ => none

def json (t : Task) : Json :=
  object [("ID", .str t.id), ("ServiceID", .str t.serviceId),
    ("Status", object [("State", .str t.state)]),
    ("NetworksAttachments", .arr (t.attachments.map TaskAttachment.json))]

def ofJson? (j : Json) : Option Task := do
  match ← fields? ["ID", "ServiceID", "Status", "NetworksAttachments"] j with
  | [id, serviceId, status, attachments] =>
    let id ← required text? id
    let serviceId ← textOr serviceId
    let state ← optional "" stateOf? status
    let attachments ← nullable [] (list? TaskAttachment.ofJson?) attachments
    some ⟨id, serviceId, state, attachments⟩
  | _ => none

end Task

namespace Config

def data? (j : Json) : Option Text.Bytes := do
  let text ← text? j
  Text.Base64.decode? text.toList

def specOf? (j : Json) : Option (String × Labels × Text.Bytes) := do
  match ← fields? ["Name", "Labels", "Data"] j with
  | [name, labels, data] =>
    let name ← textOr name
    let labels ← labels? labels
    let data ← nullable [] data? data
    some (name, labels, data)
  | _ => none

def json (c : Config) : Json :=
  object [("ID", .str c.id),
    ("Spec", object [("Name", .str c.name), ("Labels", textMap c.labels),
      ("Data", .str (String.ofList (Text.Base64.encode c.data)))])]

def ofJson? (j : Json) : Option Config := do
  match ← fields? ["ID", "Spec"] j with
  | [id, spec] =>
    let id ← required text? id
    let (name, labels, data) ← optional ("", Keyed.empty, []) specOf? spec
    some ⟨id, name, labels, data⟩
  | _ => none

end Config

namespace Info

def stateOf? (j : Json) : Option String := do
  match ← fields? ["LocalNodeState"] j with
  | [state] => textOr state
  | _ => none

def json (i : Info) : Json := object [("Swarm", object [("LocalNodeState", .str i.nodeState)])]

def ofJson? (j : Json) : Option Info := do
  match ← fields? ["Swarm"] j with
  | [swarm] =>
    let state ← nullable "" stateOf? swarm
    some ⟨state⟩
  | _ => none

end Info

namespace Event

def actorOf? (j : Json) : Option (String × Labels) := do
  match ← fields? ["ID", "Attributes"] j with
  | [id, attributes] =>
    let id ← textOr id
    let attributes ← labels? attributes
    some (id, attributes)
  | _ => none

def json (e : Event) : Json :=
  object [("Type", .str e.kind), ("Action", .str e.action),
    ("Actor", object [("ID", .str e.actorId), ("Attributes", textMap e.attributes)]),
    ("scope", .str e.scope)]

def ofJson? (j : Json) : Option Event := do
  match ← fields? ["Type", "Action", "Actor", "scope"] j with
  | [kind, action, actor, scope] =>
    let kind ← textOr kind
    let action ← textOr action
    let (actorId, attributes) ← optional ("", Keyed.empty) actorOf? actor
    let scope ← textOr scope
    some ⟨kind, action, actorId, attributes, scope⟩
  | _ => none

end Event

end ProxyFleet.Engine
