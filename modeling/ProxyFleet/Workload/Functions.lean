import ProxyFleet.Template.Syntax

/-!
The functions that label templates may call: the targets of a workload with a scheme and a port, the
names of schemes, and hosts with their names in the local domain.
-/

namespace ProxyFleet.Workload

/-- The addresses of a workload, or why they are not known. -/
abbrev Targets := Except String (List String)

/-- Adds a scheme in front of a target or a port behind it. -/
def decorate (target : String) : Json → Except Failure String
  | .str scheme => .ok (scheme ++ "://" ++ target)
  | .int port =>
    if 0 ≤ port then .ok (target ++ ":" ++ toString port)
    else .error ⟨"invalid upstreams argument " ++ toString port, []⟩
  | other => .error ⟨"invalid upstreams argument " ++ other.text, []⟩

def decorated (args : List Json) (target : String) : Except Failure String :=
  args.foldlM decorate target

/-- All targets, each decorated by the arguments. -/
def upstreams (targets : Targets) : Template.Function := fun args =>
  match targets with
  | .error reason => .error ⟨reason, []⟩
  | .ok targets => do
    let texts ← targets.mapM (decorated args)
    .ok (.str (String.intercalate " " texts))

def host : Json → Except Failure String
  | .str s => .ok s
  | .int n => .ok (toString n)
  | .double x => .ok x.text
  | other => .error ⟨"invalid host " ++ other.text, []⟩

/-- Every host followed by its name in the local domain. -/
def domain (localDomain : Option String) : Template.Function := fun args =>
  match localDomain.filter (· ≠ "") with
  | none => .error ⟨"no local domain configured", []⟩
  | some localDomain => do
    let texts ← args.mapM fun arg => do
      let name ← host arg
      .ok (name ++ " " ++ name ++ "." ++ localDomain)
    .ok (.str (String.intercalate " " texts))

/-- The functions for the templates of one workload. -/
def functions (targets : Targets) (localDomain : Option String) : Template.Functions :=
  ⟨[("upstreams", upstreams targets),
    ("http", fun _ => .ok (.str "http")),
    ("https", fun _ => .ok (.str "https")),
    ("h2c", fun _ => .ok (.str "h2c")),
    ("domain", domain localDomain)]⟩

end ProxyFleet.Workload
