import ProxyFleet.Failure
import ProxyFleet.Json.Printer

/-!
Templates: text with actions in it. An action is a pipeline of commands, each given the result of
the one before as its last argument. Besides the functions a caller provides there are three
builtins, which a caller's function of the same name hides.
-/

namespace ProxyFleet.Template

/-- What a command is made of. -/
inductive Operand where
  /-- The data as a whole. -/
  | dot
  /-- A field of the data, reached by a path that is not empty. -/
  | field (path : List String)
  | function (name : String)
  | literal (value : Json)
  /-- A pipeline in parentheses, and the path followed in its result. -/
  | group (commands : List (List Operand)) (path : List String)
deriving Inhabited, Repr

abbrev Command := List Operand

abbrev Pipeline := List Command

inductive Node where
  | text (s : String)
  | action (pipeline : Pipeline)
deriving Inhabited, Repr

/-- A function of a template: from its arguments to a value, or to a reason why there is none. -/
abbrev Function := List Json → Except Failure Json

/-- Named functions; of two with one name the first counts. -/
structure Functions where
  table : List (String × Function)

def builtins : List String := ["index", "len", "print"]

namespace Functions

def none : Functions := ⟨[]⟩

def find? (fs : Functions) (name : String) : Option Function := fs.table.lookup name

/-- Adds a function in front of one with its name. -/
def add (fs : Functions) (name : String) (f : Function) : Functions := ⟨(name, f) :: fs.table⟩

def defines (fs : Functions) (name : String) : Bool :=
  (fs.find? name).isSome || builtins.contains name

end Functions

end ProxyFleet.Template
