import ProxyFleet.Keyed
import ProxyFleet.Number.Double

/-!
JSON documents. An object keeps its members as they were written, a name given twice included, so
that a reader of records can refuse it; `normal` is the value that a document stands for, where the
members are ordered by name and of two with one name the last counts.

A text may be well-formed and still name no value, as a number that is too large does. Such a part of
a document is `unreadable`: it can be passed over, but nothing reads it.
-/

namespace ProxyFleet

inductive Json where
  | null
  | bool (b : Bool)
  | int (n : Int)
  | double (x : Double)
  | str (s : String)
  | arr (items : List Json)
  | obj (members : List (String × Json))
  | unreadable
deriving Inhabited, BEq, Repr

namespace Json

mutual

/-- The value of a document. -/
def normal : Json → Json
  | .arr items => .arr (normalItems items)
  | .obj members => .obj (normalMembers members).entries
  | json => json

def normalItems : List Json → List Json
  | [] => []
  | item :: rest => normal item :: normalItems rest

/-- The members of an object by name. The first member is put first, so that a later one with its
name takes its place. -/
def normalMembers (members : List (String × Json)) : Keyed Json :=
  Keyed.ofList (normalValues members)

def normalValues : List (String × Json) → List (String × Json)
  | [] => []
  | (name, value) :: rest => (name, normal value) :: normalValues rest

end

mutual

/-- The document has no unreadable part. -/
def isReadable : Json → Bool
  | .arr items => areReadable items
  | .obj members => haveReadableValues members
  | .unreadable => false
  | _ => true

def areReadable : List Json → Bool
  | [] => true
  | item :: rest => isReadable item && areReadable rest

def haveReadableValues : List (String × Json) → Bool
  | [] => true
  | (_, value) :: rest => isReadable value && haveReadableValues rest

end

mutual

/-- How many lists and objects stand within one another. -/
def depth : Json → Nat
  | .arr items => depthOfItems items + 1
  | .obj members => depthOfMembers members + 1
  | _ => 0

def depthOfItems : List Json → Nat
  | [] => 0
  | item :: rest => max (depth item) (depthOfItems rest)

def depthOfMembers : List (String × Json) → Nat
  | [] => 0
  | (_, value) :: rest => max (depth value) (depthOfMembers rest)

end

def ofKeyed (m : Keyed Json) : Json := .obj m.entries

/-- The document with these members, which are written in the order of their names. -/
def object (members : List (String × Json)) : Json :=
  ofKeyed (Keyed.ofList members)

def strings (items : List String) : Json := .arr (items.map .str)

/-- The member with a name, the last one if it is given twice. -/
def member? (json : Json) (name : String) : Option Json :=
  match json with
  | .obj members => members.reverse.lookup name
  | _ => none

/-- Puts a member into an object, in place of the one with its name. -/
def putMember (members : List (String × Json)) (name : String) (value : Json) : Json :=
  ofKeyed ((Keyed.ofList members).put name value)

end Json

end ProxyFleet
