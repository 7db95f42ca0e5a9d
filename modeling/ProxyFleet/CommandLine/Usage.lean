import ProxyFleet.CommandLine.Arguments

/-!
What the program says about its command line.
-/

namespace ProxyFleet.CommandLine

def Setting.usage (s : Setting) : String :=
  let value := match s.arity with
    | .switch => ""
    | .single => " <value>"
    | .list => " <value>,..."
  let source := match s.envVariable with
    | some name => "  (environment: " ++ name ++ ")"
    | none => ""
  "  --" ++ s.option ++ value ++ source

def usage : String :=
  String.intercalate "\n"
    (["Configures Caddy servers from Docker labels", "",
      "Usage: caddy-proxy-controller [options]", "", "Options:"] ++
      Setting.all.map Setting.usage ++ ["  --help"])

def Refusal.message : Refusal → String
  | .impossible => "not a possible value"
  | .malformed => "invalid value"

def Fault.message : Fault → String
  | .help => usage
  | .unknown argument => "unexpected argument " ++ Text.quoted argument
  | .missingValue option => "--" ++ option ++ " needs a value"
  | .needlessValue option => "--" ++ option ++ " takes no value"
  | .repeated option => "--" ++ option ++ " can be given only once"
  | .refused option value refusal =>
    refusal.message ++ " " ++ Text.quoted value ++ " for --" ++ option

/-- Asking for an explanation is no failure. -/
def Fault.status : Fault → UInt32
  | .help => 0
  | _ => 2

end ProxyFleet.CommandLine
