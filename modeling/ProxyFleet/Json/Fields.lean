import ProxyFleet.Json.Basic

/-!
Reading records out of JSON. A record is an object, whose unknown members are passed over, or a list
of its fields in order, where fields may be missing at the end. A field given twice is refused.
-/

namespace ProxyFleet.Json

/-- The field `name` of an object: not given, given, or given twice. -/
def field? (members : List (String × Json)) (name : String) : Option (Option Json) :=
  match members.filter (·.1 = name) with
  | [] => some none
  | [(_, value)] => some (some value)
  | _ => none

/-- What a document gives for the fields of a record, in the order of `names`. -/
def fields? (names : List String) : Json → Option (List (Option Json))
  | .obj members => names.mapM (field? members)
  | .arr items =>
    if items.length ≤ names.length then
      some (items.map some ++ List.replicate (names.length - items.length) none)
    else none
  | _ => none

def text? : Json → Option String
  | .str s => some s
  | _ => none

def flag? : Json → Option Bool
  | .bool b => some b
  | _ => none

def list? {α : Type} (item? : Json → Option α) : Json → Option (List α)
  | .arr items => items.mapM item?
  | _ => none

/-- A map from names; of two members with one name the last counts. -/
def map? {α : Type} (value? : Json → Option α) : Json → Option (Keyed α)
  | .obj members =>
    (members.mapM fun m : String × Json => (value? m.2).map (m.1, ·)).map Keyed.ofList
  | _ => none

/-- A field that has to be given. -/
def required {α : Type} (read? : Json → Option α) (given : Option Json) : Option α :=
  given.bind read?

/-- A field that may be missing but not null. -/
def optional {α : Type} (default : α) (read? : Json → Option α) : Option Json → Option α
  | none => some default
  | some json => read? json

/-- A field that may be missing or null. -/
def nullable {α : Type} (default : α) (read? : Json → Option α) : Option Json → Option α
  | none | some .null => some default
  | some json => read? json

end ProxyFleet.Json
