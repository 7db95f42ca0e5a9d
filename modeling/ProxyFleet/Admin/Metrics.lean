import ProxyFleet.Delivery.Dispatch

/-!
Metrics of the controller and their text for a scraper: every metric with its help and its kind,
then its samples, and a mark at the end. A label value that has never been counted has no sample.
-/

namespace ProxyFleet.Admin

open Delivery (Outcome Tally)

structure Metrics where
  cycles : Nat := 0
  changes : Nat := 0
  version : Int := 0
  pushes : Tally := {}
deriving DecidableEq, Repr, Inhabited

inductive MetricKind where
  | counter
  | gauge
deriving DecidableEq, Repr, Inhabited

def MetricKind.text : MetricKind → String
  | .counter => "counter"
  | .gauge => "gauge"

/-- A metric with its samples, which are values by what follows the name. -/
structure Metric where
  name : String
  help : String
  kind : MetricKind
  samples : List (String × String)
deriving DecidableEq, Repr, Inhabited

def fullName (name : String) : String := "caddy_proxy_controller_" ++ name

/-- The samples with the names under which they are scraped. -/
def Metric.named (m : Metric) : List (String × String) :=
  m.samples.map fun s => (fullName m.name ++ s.1, s.2)

def Metric.lines (m : Metric) : List String :=
  ["# HELP " ++ fullName m.name ++ " " ++ m.help ++ ".",
    "# TYPE " ++ fullName m.name ++ " " ++ m.kind.text] ++
    m.named.map fun s => s.1 ++ " " ++ s.2

namespace Metrics

def outcomes : List Outcome := [.failed, .ok, .skipped]

/-- The samples of the pushes, in the order of their labels. -/
def pushSamples (t : Tally) : List (String × String) :=
  (outcomes.filter fun o => t.count o ≠ 0).map fun o =>
    ("_total\x7boutcome=\"" ++ o.text ++ "\"\x7d", toString (t.count o))

def metrics (m : Metrics) : List Metric :=
  [⟨"generation_cycles", "Total number of Caddyfile generation cycles", .counter,
      [("_total", toString m.cycles)]⟩,
    ⟨"config_changes", "Total number of generated configuration changes", .counter,
      [("_total", toString m.changes)]⟩,
    ⟨"config_version", "The version of the current configuration", .gauge,
      [("", toString m.version)]⟩,
    ⟨"pushes", "Total number of configuration pushes to controlled servers by outcome", .counter,
      pushSamples m.pushes⟩]

def samples (m : Metrics) : List (String × String) := m.metrics.flatMap Metric.named

def text (m : Metrics) : String :=
  String.join ((m.metrics.flatMap Metric.lines ++ ["# EOF"]).map (· ++ "\n"))

end Metrics

end ProxyFleet.Admin
