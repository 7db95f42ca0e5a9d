import ProxyFleet.CommandLine.Duration
import ProxyFleet.CommandLine.LogFilter
import ProxyFleet.Engine.Endpoint
import ProxyFleet.Fleet.Options
import ProxyFleet.Net.Socket

/-!
What can be set from outside: the settings with their defaults, and for each of them the option and
the environment variable that set it.
-/

namespace ProxyFleet.CommandLine

structure Settings where
  logFilter : LogFilter := ⟨"caddy_proxy_controller=info,warn"⟩
  logFormat : LogFormat := .plain
  mode : Fleet.Mode := .standalone
  /-- The engines to watch; if there are none, a default takes their place. -/
  engines : List Engine.Endpoint := []
  /-- The versions of the engines' interfaces, in the same order. -/
  versions : List String := []
  /-- The path of a Caddyfile that comes before all workloads. -/
  base : Option String := none
  labelPrefix : String := "caddy"
  serverLabel : Option String := none
  proxyTasks : Bool := true
  prune : Bool := true
  scanStopped : Bool := false
  polling : Duration := ⟨30, 0⟩
  throttle : Duration := ⟨0, 100000000⟩
  reconnect : Duration := ⟨30, 0⟩
  /-- Subscribe to events of all scopes. -/
  allScopes : Bool := false
  ingressNetworks : List String := []
  controllerNetwork : Option String := none
  localDomain : Option String := none
  adapterUrl : String := "http://localhost:2019"
  /-- Where pages for the operator are served. -/
  admin : Net.Socket := ⟨.v4 0, 9990, 0⟩
deriving DecidableEq, Repr, Inhabited

namespace Settings

/-- The label that marks servers has a default that depends on the prefix of labels. -/
def options (s : Settings) : Fleet.Options where
  mode := s.mode
  labelPrefix := s.labelPrefix
  serverLabel := s.serverLabel.getD (Fleet.serverLabelOf s.labelPrefix)
  proxyTasks := s.proxyTasks
  prune := s.prune
  scanStopped := s.scanStopped
  ingressNetworks := s.ingressNetworks
  controllerNetwork := s.controllerNetwork
  localDomain := s.localDomain

end Settings

/-- Why a value is refused. -/
inductive Refusal where
  /-- It is none of the possible values, or empty where something is needed. -/
  | impossible
  | malformed
deriving DecidableEq, Repr, Inhabited

/-- How many values an option takes, and how often it may be given. -/
inductive Arity where
  /-- No value; being given means `true`. -/
  | switch
  | single
  /-- Values between commas, as often as wanted. -/
  | list
deriving DecidableEq, Repr, Inhabited

/-- A way to change the settings. -/
structure Setting where
  option : String
  envVariable : Option String
  arity : Arity
  /-- Sets one value. -/
  put : String → Settings → Except Refusal Settings

namespace Setting

/-- Sets what is written for an option, which for a list is several values. -/
def take (s : Setting) (text : String) (settings : Settings) : Except Refusal Settings :=
  match s.arity with
  | .list => (text.splitOn ",").foldlM (fun settings value => s.put value settings) settings
  | _ => s.put text settings

/-! Kinds of values. -/

def parsed {α : Type} (parse? : String → Option α) (text : String) : Except Refusal α :=
  match parse? text with
  | some a => .ok a
  | none => .error .malformed

def truth (text : String) : Except Refusal Bool :=
  if text = "true" then .ok true
  else if text = "false" then .ok false
  else .error .impossible

def path (text : String) : Except Refusal String :=
  if text = "" then .error .impossible else .ok text

def endpoint (text : String) : Except Refusal Engine.Endpoint :=
  parsed (fun text => (Engine.Endpoint.parse text).toOption) text

/-- An option with a value of one kind, and what its value changes. -/
def of {α : Type} (option : String) (envVariable : Option String) (arity : Arity)
    (read : String → Except Refusal α) (change : α → Settings → Settings) : Setting :=
  ⟨option, envVariable, arity, fun text settings => (read text).map (change · settings)⟩

/-- All settings, in the order in which environment variables are looked at. -/
def all : List Setting := [
  .of "log-level" (some "CADDY_PROXY_CONTROLLER_LOG") .single (parsed LogFilter.parse?)
    fun a s => { s with logFilter := a },
  .of "log-format" none .single (parsed LogFormat.parse?) fun a s => { s with logFormat := a },
  .of "mode" (some "CADDY_DOCKER_MODE") .single (parsed Fleet.Mode.parse?)
    fun a s => { s with mode := a },
  .of "docker-sockets" (some "CADDY_DOCKER_SOCKETS") .list endpoint
    fun a s => { s with engines := s.engines ++ [a] },
  .of "docker-apis-version" (some "CADDY_DOCKER_APIS_VERSION") .list .ok
    fun a s => { s with versions := s.versions ++ [a] },
  .of "caddyfile-path" (some "CADDY_DOCKER_CADDYFILE_PATH") .single path
    fun a s => { s with base := some a },
  .of "label-prefix" (some "CADDY_DOCKER_LABEL_PREFIX") .single .ok
    fun a s => { s with labelPrefix := a },
  .of "controlled-server-label" (some "CADDY_CONTROLLED_SERVER_LABEL") .single .ok
    fun a s => { s with serverLabel := some a },
  .of "proxy-service-tasks" (some "CADDY_DOCKER_PROXY_SERVICE_TASKS") .single truth
    fun a s => { s with proxyTasks := a },
  .of "process-caddyfile" (some "CADDY_DOCKER_PROCESS_CADDYFILE") .single truth
    fun a s => { s with prune := a },
  .of "scan-stopped-containers" (some "CADDY_DOCKER_SCAN_STOPPED_CONTAINERS") .switch truth
    fun a s => { s with scanStopped := a },
  .of "polling-interval" (some "CADDY_DOCKER_POLLING_INTERVAL") .single (parsed Duration.parse?)
    fun a s => { s with polling := a },
  .of "event-throttle-interval" (some "CADDY_DOCKER_EVENT_THROTTLE_INTERVAL") .single
    (parsed Duration.parse?) fun a s => { s with throttle := a },
  .of "events-reconnect-interval" none .single (parsed Duration.parse?)
    fun a s => { s with reconnect := a },
  .of "no-event-scope" (some "CADDY_DOCKER_NO_SCOPE") .switch truth
    fun a s => { s with allScopes := a },
  .of "ingress-networks" (some "CADDY_INGRESS_NETWORKS") .list .ok
    fun a s => { s with ingressNetworks := s.ingressNetworks ++ [a] },
  .of "controller-network" (some "CADDY_CONTROLLER_NETWORK") .single .ok
    fun a s => { s with controllerNetwork := some a },
  .of "local-domain" (some "CADDY_DOCKER_LOCAL_DOMAIN") .single .ok
    fun a s => { s with localDomain := some a },
  .of "adapter-url" (some "CADDY_ADAPTER_URL") .single .ok fun a s => { s with adapterUrl := a },
  .of "admin-addr" none .single (parsed Net.Socket.parse?) fun a s => { s with admin := a }]

def named? (option : String) : Option Setting := all.find? fun s => s.option = option

end Setting

end ProxyFleet.CommandLine
