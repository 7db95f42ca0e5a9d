import ProxyFleet.Failure
import ProxyFleet.Text.Blank
import ProxyFleet.Text.Word

/-!
The container in which a program runs, as the kernel tells it to the program: by the control groups
or by the mounts of its process. A container's identifier is sixty-four letters and digits. Where the
kernel tells nothing the name of the machine is taken, which is a short identifier by default.
-/

namespace ProxyFleet.Engine.Identity

def idLength : Nat := 64

def isIdChar (c : Char) : Bool := c.isAlphanum

/-- Letters and digits, and the two other characters that are letters of them in another case. -/
def isIdCharInAnyCase (c : Char) : Bool := isIdChar c || c = '\u017f' || c = '\u212a'

def startsWord (before : Option Char) : Bool := !before.any Text.isWordChar

/-- The identifier at the front of a text, if it is a word of its own. -/
def idWord? (before : Option Char) (cs : List Char) : Option (List Char) :=
  let id := cs.take idLength
  if id.length = idLength && id.all isIdCharInAnyCase && startsWord before &&
      startsWord cs[idLength]? then some id
  else none

/-- The last identifier in a line that is a word of its own. -/
def lastId? (before : Option Char) : List Char → Option (List Char)
  | [] => none
  | c :: rest => (lastId? (some c) rest).or (idWord? before (c :: rest))

/-- What follows the next colon. -/
def afterColon? (cs : List Char) : Option (List Char) :=
  match cs.dropWhile (· ≠ ':') with
  | [] => none
  | _ :: rest => some rest

/-- The identifier in the third field of the entry that begins here; the first two fields end with
colons and may hold line breaks. -/
def entryId? (cs : List Char) : Option (List Char) := do
  let rest ← afterColon? (← afterColon? cs)
  lastId? (some ':') (rest.takeWhile (· ≠ '\n'))

/-- The first identifier found by the entries that begin at the starts of lines. -/
def ofLines? (atStart : Bool) : List Char → Option (List Char)
  | [] => none
  | c :: rest =>
    (if atStart then entryId? (c :: rest) else none).or (ofLines? (c = '\n') rest)

def ofControlGroups? (text : String) : Option String :=
  (ofLines? true text.toList).map String.ofList

def containersFolder : List Char := "containers/".toList

/-- The identifier in a path at the front of a text. -/
def folderId? (cs : List Char) : Option (List Char) := do
  let rest ← containersFolder.isPrefixOf? cs
  let id := rest.take idLength
  if id.length = idLength && id.all isIdChar && rest[idLength]? = some '/' then some id else none

/-- The identifiers in the paths of a text; a path begins where the one before has ended. -/
def folderIds : List Char → List (List Char)
  | [] => []
  | c :: rest =>
    match folderId? (c :: rest) with
    | some id => id :: folderIds (rest.drop (containersFolder.length + idLength))
    | none => folderIds rest
termination_by cs => cs.length
decreasing_by
  · simp only [List.length_drop, List.length_cons]; omega
  · simp

/-- The last identifier of a container in the path of a mount. -/
def ofMounts? (text : String) : Option String :=
  (folderIds text.toList).getLast?.map String.ofList

/-- What a machine tells a program that runs on it. -/
structure Sources where
  controlGroups : Option String := none
  mounts : Option String := none
  /-- The machine's name in the environment. -/
  hostVariable : Option String := none
  /-- The machine's name in a file. -/
  hostFile : Option String := none
deriving DecidableEq, Repr, Inhabited

def unknown : Failure := ⟨"unable to determine the current container ID", []⟩

def Sources.all (s : Sources) : List (Option String) := [
  s.controlGroups.bind ofControlGroups?,
  s.mounts.bind ofMounts?,
  s.hostVariable.filter (· ≠ ""),
  (s.hostFile.map Text.trim).filter (· ≠ "")]

/-- The first source that tells something goes before the others. -/
def Sources.container (s : Sources) : Except Failure String :=
  match s.all.filterMap (·) with
  | found :: _ => .ok found
  | [] => .error unknown

end ProxyFleet.Engine.Identity
