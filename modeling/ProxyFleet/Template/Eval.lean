import ProxyFleet.Template.Syntax

/-!
Filling in a template with data. Every action is evaluated to a value and written as text; the first
action that fails makes the whole template fail.
-/

namespace ProxyFleet.Template

inductive EvalError where
  | missingField (name : String)
  | fieldOfNil (name : String)
  | fieldOfKind (name kind : String)
  | argumentsTo (described : String)
  | undefinedFunction (name : String)
  | callFailed (name : String) (failure : Failure)
  | indexWithoutArguments
  | indexOutOfRange (index : Json)
  | indexOfNil
  | cannotIndex (kind key : String)
  | lengthOf (kind : String)
  | lengthArguments (count : Nat)
deriving Repr, Inhabited

def EvalError.cause : EvalError → String
  | .missingField name => "can't evaluate field " ++ name
  | .fieldOfNil name => "nil pointer evaluating field " ++ name
  | .fieldOfKind name kind => "can't evaluate field " ++ name ++ " in type " ++ kind
  | .argumentsTo described => "can't give argument to non-function " ++ described
  | .undefinedFunction name => "function " ++ Text.quoted name ++ " not defined"
  | .callFailed name failure => "error calling " ++ name ++ ": " ++ failure.chain
  | .indexWithoutArguments => "wrong number of args for index: want at least 1 got 0"
  | .indexOutOfRange index => "error calling index: index out of range: " ++ index.text
  | .indexOfNil => "error calling index: index of untyped nil"
  | .cannotIndex kind key => "error calling index: cannot index " ++ kind ++ " with " ++ key
  | .lengthOf kind => "error calling len: len of " ++ kind
  | .lengthArguments count => "wrong number of args for len: want 1 got " ++ toString count

def EvalError.message (e : EvalError) : String := "template: " ++ e.cause

/-- The kind of a value as messages name it. -/
def kind : Json → String
  | .null | .unreadable => "nil"
  | .bool _ => "bool"
  | .int _ | .double _ => "number"
  | .str _ => "string"
  | .arr _ => "slice"
  | .obj _ => "map"

mutual

/-- A value as text: nothing for nil, items between brackets, members after the word `map`. -/
def valueText : Json → String
  | .null | .unreadable => ""
  | .bool b => if b then "true" else "false"
  | .int n => toString n
  | .double x => x.text
  | .str s => s
  | .arr items => "[" ++ String.intercalate " " (itemTexts items) ++ "]"
  | .obj members => "map[" ++ String.intercalate " " (memberTexts members) ++ "]"

def itemTexts : List Json → List String
  | [] => []
  | item :: rest => valueText item :: itemTexts rest

def memberTexts : List (String × Json) → List String
  | [] => []
  | (name, value) :: rest => (name ++ ":" ++ valueText value) :: memberTexts rest

end

/-- Follows a path of fields into a value. -/
def follow (value : Json) : List String → Except EvalError Json
  | [] => .ok value
  | name :: rest =>
    match value with
    | .obj members =>
      match members.lookup name with
      | some inner => follow inner rest
      | none => .error (.missingField name)
    | .null => .error (.fieldOfNil name)
    | other => .error (.fieldOfKind name (kind other))

/-! Builtins -/

/-- One step into a list or a map. A key that a map lacks gives nil. -/
def indexOne (value key : Json) : Except EvalError Json :=
  match value, key with
  | .arr items, .int n =>
    match if 0 ≤ n then items[n.toNat]? else none with
    | some item => .ok item
    | none => .error (.indexOutOfRange key)
  | .arr _, .double _ => .error (.indexOutOfRange key)
  | .obj members, .str name => .ok ((members.lookup name).getD .null)
  | .null, _ => .error .indexOfNil
  | value, key => .error (.cannotIndex (kind value) (kind key))

def index : List Json → Except EvalError Json
  | [] => .error .indexWithoutArguments
  | value :: keys => keys.foldlM indexOne value

/-- Bytes of a text, items of a list, members of a map. -/
def length : List Json → Except EvalError Json
  | [.str s] => .ok (.int s.utf8ByteSize)
  | [.arr items] => .ok (.int items.length)
  | [.obj members] => .ok (.int members.length)
  | [other] => .error (.lengthOf (kind other))
  | args => .error (.lengthArguments args.length)

def isText : Json → Bool
  | .str _ => true
  | _ => false

/-- Texts of the arguments, with a space between two neighbours of which none is a text. -/
def printed : List Json → String
  | [] => ""
  | [value] => valueText value
  | a :: b :: rest =>
    valueText a ++ (if isText a || isText b then "" else " ") ++ printed (b :: rest)

/-- Calls a function; one of the caller's hides a builtin. -/
def call (fs : Functions) (name : String) (args : List Json) : Except EvalError Json :=
  match fs.find? name with
  | some f =>
    match f args with
    | .ok value => .ok value
    | .error failure => .error (.callFailed name failure)
  | none =>
    match name with
    | "index" => index args
    | "len" => length args
    | "print" => .ok (.str (printed args))
    | _ => .error (.undefinedFunction name)

/-- An operand as messages show it. -/
def described : Operand → String
  | .dot => "."
  | .field path | .group _ path => "." ++ String.intercalate "." path
  | .function name => name
  | .literal value => value.text

mutual

def evalOperand (fs : Functions) (data : Json) : Operand → Except EvalError Json
  | .dot => .ok data
  | .field path => follow data path
  | .function name => call fs name []
  | .literal value => .ok value
  | .group commands path => do
    let value ← evalPipeline fs data commands none
    follow (value.getD .null) path

def evalOperands (fs : Functions) (data : Json) : List Operand → Except EvalError (List Json)
  | [] => .ok []
  | o :: rest => do
    let value ← evalOperand fs data o
    let values ← evalOperands fs data rest
    .ok (value :: values)

/-- A command takes arguments only if it starts with a function. -/
def evalCommand (fs : Functions) (data : Json) (piped : Option Json) :
    List Operand → Except EvalError Json
  | [] => .ok .null
  | first :: rest =>
    match first with
    | .function name => do
      let args ← evalOperands fs data rest
      call fs name (args ++ piped.toList)
    | first =>
      if !rest.isEmpty || piped.isSome then .error (.argumentsTo (described first))
      else evalOperand fs data first

/-- Commands from left to right, each given the value of the one before. -/
def evalPipeline (fs : Functions) (data : Json) :
    List (List Operand) → Option Json → Except EvalError (Option Json)
  | [], last => .ok last
  | command :: rest, last => do
    let value ← evalCommand fs data last command
    evalPipeline fs data rest (some value)

end

def evalNode (fs : Functions) (data : Json) : Node → Except EvalError String
  | .text s => .ok s
  | .action pipeline => do
    let value ← evalPipeline fs data pipeline none
    .ok (valueText (value.getD .null))

/-- The text of a template filled in with `data`. -/
def execute (fs : Functions) (data : Json) : List Node → Except EvalError String
  | [] => .ok ""
  | node :: rest => do
    let text ← evalNode fs data node
    let more ← execute fs data rest
    .ok (text ++ more)

end ProxyFleet.Template
