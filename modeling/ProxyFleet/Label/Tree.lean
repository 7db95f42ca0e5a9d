import ProxyFleet.Caddyfile.Token
import ProxyFleet.FirstMatch
import ProxyFleet.Keyed
import ProxyFleet.Label.Path
import ProxyFleet.Template.Eval
import ProxyFleet.Template.Parser

/-!
The blocks that labels describe. Labels whose names begin with the same segments share the blocks
of those segments; the value of a label, filled in as a template, gives further words for the block
of its last segment. Top-level blocks get their words from values alone.
-/

namespace ProxyFleet.Label

/-- A block under its segment; the blocks of longer paths hang below it in order of creation. -/
structure Branch where
  segment : Segment
  words : List String
  children : List Branch
deriving Inhabited, Repr

/-- Gives words to the block at a path, making the blocks that are missing on the way. -/
def grow (words : List String) : List Segment → List Branch → List Branch
  | [], branches => branches
  | [s], branches =>
    changeFirst (·.segment = s) (fun b => { b with words := b.words ++ words }) ⟨s, words, []⟩
      branches
  | s :: path, branches =>
    changeFirst (·.segment = s) (fun b => { b with children := grow words path b.children })
      ⟨s, [], grow words path []⟩ branches

mutual

/-- The block of a branch. Below the top level its first word is the name of the segment. -/
def Branch.block (top : Bool) : Branch → Block
  | ⟨segment, words, children⟩ =>
    ⟨(if top then [] else [segment.name]) ++ words, segment.order, blocksBelow children⟩

def blocksBelow : List Branch → List Block
  | [] => []
  | b :: rest => b.block false :: blocksBelow rest

end

inductive LabelError where
  | invalidPath (path : String)
  | template (label : String) (error : Template.ParseError)
deriving DecidableEq, Repr, Inhabited

def LabelError.message : LabelError → String
  | .invalidPath path => "invalid label " ++ Text.quoted path
  | .template label error =>
    "invalid template in label " ++ Text.quoted label ++ ": " ++ error.message

/-- A value is a template if it has an opening delimiter in it. -/
def isTemplate (value : String) : Bool := (Template.cutAtOpen value.toList).isSome

/-- A value filled in with data. A template that cannot be filled in gives nothing. -/
def expand (fs : Template.Functions) (data : Json) (value : String) :
    Except Template.ParseError String :=
  if isTemplate value then
    match Template.parse fs value with
    | .error e => .error e
    | .ok nodes =>
      match Template.execute fs data nodes with
      | .ok text => .ok text
      | .error _ => .ok ""
  else .ok value

/-- Adds the block of one label. -/
def plant (fs : Template.Functions) (data : Json) (branches : List Branch) (label value : String) :
    Except LabelError (List Branch) :=
  match path? label with
  | .error fault => .error (.invalidPath fault)
  | .ok path =>
    match expand fs data value with
    | .error e => .error (.template label e)
    | .ok text => .ok (grow ((Caddyfile.tokens text).map (·.text)) path branches)

def plantAll (fs : Template.Functions) (data : Json) :
    List (String × String) → List Branch → Except LabelError (List Branch)
  | [], branches => .ok branches
  | (label, value) :: rest, branches =>
    match plant fs data branches label value with
    | .error e => .error e
    | .ok branches => plantAll fs data rest branches

/-- The blocks that labels describe, given the functions and data for their templates. -/
def blocks (fs : Template.Functions) (data : Json) (labels : Keyed String) :
    Except LabelError (List Block) :=
  (plantAll fs data labels.entries []).map fun branches => branches.map (Branch.block true)

end ProxyFleet.Label
