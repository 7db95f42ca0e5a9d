import ProxyFleet.CommandLine.Settings

/-!
Settings from the arguments of a command line and from environment variables. An option's value
follows it in the same argument behind an equals sign, or as the next argument; what is given there
goes before the environment, and the environment before the defaults.
-/

namespace ProxyFleet.CommandLine

inductive Fault where
  /-- No fault: an explanation was asked for. -/
  | help
  | unknown (argument : String)
  | missingValue (option : String)
  /-- An option without values was given one. -/
  | needlessValue (option : String)
  | repeated (option : String)
  | refused (option value : String) (refusal : Refusal)
deriving DecidableEq, Repr, Inhabited

/-- An argument by its form. -/
inductive Argument where
  /-- With the value behind the equals sign. -/
  | long (option : String) (value : Option String)
  | short (letters : String)
  /-- After it no argument is an option. -/
  | separator
  | plain
deriving DecidableEq, Repr, Inhabited

def Argument.ofText (text : String) : Argument :=
  match text.toList with
  | ['-', '-'] => .separator
  | '-' :: '-' :: rest =>
    let value := match rest.dropWhile (· ≠ '=') with
      | _ :: value => some (String.ofList value)
      | [] => none
    .long (String.ofList (rest.takeWhile (· ≠ '='))) value
  | '-' :: c :: rest => .short (String.ofList (c :: rest))
  | _ => .plain

/-- How far a command line has been read. -/
structure Reading where
  settings : Settings := {}
  /-- The options that have been given. -/
  given : List String := []
  /-- An option whose value is an argument of its own, and the value once it has been read. -/
  pending : Option (Setting × Option String) := none
deriving Inhabited

namespace Reading

/-- Sets a value that was given for an option. -/
def give (r : Reading) (s : Setting) (value : String) : Except Fault Reading :=
  if s.arity ≠ .list ∧ r.given.contains s.option then .error (.repeated s.option)
  else
    match s.take value r.settings with
    | .ok settings => .ok { r with settings, given := s.option :: r.given }
    | .error refusal => .error (.refused s.option value refusal)

/-- Closes the option that is still pending. -/
def close (r : Reading) : Except Fault Reading :=
  match r.pending with
  | none => .ok r
  | some (s, none) => .error (.missingValue s.option)
  | some (s, some value) => { r with pending := none }.give s value

def takeOption (r : Reading) (s : Setting) (value : Option String) : Except Fault Reading :=
  match s.arity, value with
  | .switch, some _ => .error (.needlessValue s.option)
  | .switch, none => do (← r.close).give s "true"
  | _, some value => do (← r.close).give s value
  | _, none => do
    let r ← r.close
    .ok { r with pending := some (s, none) }

def takeHelp (r : Reading) : Except Fault Reading := do
  let _ ← r.close
  .error .help

def takeLong (r : Reading) (text option : String) (value : Option String) :
    Except Fault Reading :=
  if option = "help" then
    if value.isSome then .error (.needlessValue option) else r.takeHelp
  else
    match Setting.named? option with
    | some s => r.takeOption s value
    | none => .error (.unknown text)

/-- An argument that is no option is the value of the pending one, if that has none yet. -/
def takePlain (r : Reading) (text : String) : Except Fault Reading :=
  match r.pending with
  | some (s, none) => .ok { r with pending := some (s, some text) }
  | _ => .error (.unknown text)

def readAll (r : Reading) : List String → Except Fault Reading
  | [] => r.close
  | text :: rest =>
    match Argument.ofText text with
    | .separator =>
      match rest with
      | [] => r.close
      | next :: _ => .error (.unknown next)
    | .long option value => do (← r.takeLong text option value).readAll rest
    | .short letters => do
      let r ← if letters.startsWith "h" then r.takeHelp else .error (.unknown text)
      r.readAll rest
    | .plain => do (← r.takePlain text).readAll rest

/-- Options that were not given take the values of their environment variables. -/
def complete (r : Reading) (environment : String → Option String) : Except Fault Settings :=
  Setting.all.foldlM (fun settings s =>
    if r.given.contains s.option then .ok settings
    else
      match s.envVariable.bind environment with
      | none => .ok settings
      | some value => (s.take value settings).mapError (.refused s.option value)) r.settings

end Reading

def Settings.parse (environment : String → Option String) (arguments : List String) :
    Except Fault Settings := do
  (← ({} : Reading).readAll arguments).complete environment

end ProxyFleet.CommandLine
