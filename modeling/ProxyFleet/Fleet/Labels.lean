import ProxyFleet.Engine.Record
import ProxyFleet.Text.Occurs
import ProxyFleet.Text.Word

/-!
Which labels of a workload describe configuration: the prefix alone or followed by a path, where an
underscore and a number behind the prefix keep several configurations of one workload apart.
-/

namespace ProxyFleet.Fleet

/-- The end of a name, or a dot and what comes after it. -/
def endsOrDot : List Char → Bool
  | [] => true
  | c :: _ => c = '.'

/-- What may follow the prefix in the name of a label. -/
def isLabelTail (cs : List Char) : Bool :=
  endsOrDot cs ||
    match cs with
    | '_' :: d :: rest => Text.isDecimalDigit d && endsOrDot (rest.dropWhile Text.isDecimalDigit)
    | _ => false

def hasPrefix (labelPrefix label : String) : Bool :=
  match labelPrefix.toList.isPrefixOf? label.toList with
  | some tail => isLabelTail tail
  | none => false

/-- The labels that describe configuration. -/
def configLabels (labelPrefix : String) (labels : Engine.Labels) : Engine.Labels :=
  labels.filter fun label _ => hasPrefix labelPrefix label

def upstreamsName : String := "upstreams"

/-- Some label may ask for the addresses of its workload. -/
def mentionsUpstreams (labels : Engine.Labels) : Bool :=
  labels.values.any fun value => Text.occursIn upstreamsName.toList value.toList

end ProxyFleet.Fleet
