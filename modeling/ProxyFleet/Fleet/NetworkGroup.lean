import ProxyFleet.Engine.Record
import ProxyFleet.Net.Subnet

/-!
A group of networks, told by identifier, name or subnet. What a member leaves empty matches nothing.
-/

namespace ProxyFleet.Fleet

structure Member where
  id : String := ""
  name : String := ""
  subnets : List Net.Subnet := []
deriving DecidableEq, Repr, Inhabited

structure NetworkGroup where
  name : String
  members : List Member := []
deriving DecidableEq, Repr, Inhabited

namespace Member

def hasId (m : Member) (id : String) : Bool := m.id ≠ "" && m.id = id

def hasName (m : Member) (name : String) : Bool := m.name ≠ "" && m.name = name

def contains (m : Member) (address : Net.Address) : Bool := m.subnets.any (·.contains address)

/-- A network as a member; subnets that cannot be read are passed over. -/
def ofNetwork (n : Engine.Network) : Member :=
  ⟨n.id, n.name, (n.subnets.filterMap Net.Subnet.parse?).map Net.Subnet.truncated⟩

end Member

namespace NetworkGroup

def hasId (g : NetworkGroup) (id : String) : Bool := g.members.any (·.hasId id)

def hasName (g : NetworkGroup) (name : String) : Bool := g.members.any (·.hasName name)

def contains (g : NetworkGroup) (address : Net.Address) : Bool := g.members.any (·.contains address)

/-- The text is an address, with or without a subnet length, that is in the group. -/
def containsText (g : NetworkGroup) (text : String) : Bool :=
  (Net.Address.parseWithin? text).any g.contains

def subnets (g : NetworkGroup) : List Net.Subnet := g.members.flatMap (·.subnets)

end NetworkGroup

end ProxyFleet.Fleet
