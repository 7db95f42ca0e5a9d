import ProxyFleet.Control.Simulation
import ProxyFleet.Delivery.Session
import ProxyFleet.Main
import ProxyFleet.Proofs.Caddyfile.Canonical
import ProxyFleet.Proofs.Caddyfile.Greedy
import ProxyFleet.Proofs.Caddyfile.RoundTrip
import ProxyFleet.Proofs.Fleet.Reach
import ProxyFleet.Proofs.Runs
import ProxyFleet.Proofs.Control.Observed
import ProxyFleet.Proofs.Delivery.Registered
import ProxyFleet.Proofs.Control.Versioned
import ProxyFleet.Proofs.Control.Quiescence
import ProxyFleet.Proofs.Fleet.Apart
import ProxyFleet.Proofs.Fleet.Gating
import ProxyFleet.Proofs.Fleet.Tolerance
import ProxyFleet.Proofs.Fleet.Listing
import ProxyFleet.Proofs.Control.Bursts
import ProxyFleet.Proofs.Delivery.Outcomes
import ProxyFleet.Proofs.Control.Delivered
import ProxyFleet.Proofs.Control.Repeated
import ProxyFleet.Proofs.Caddyfile.Merging
import ProxyFleet.Proofs.Caddyfile.Targets
import ProxyFleet.Proofs.Caddyfile.Balanced
import ProxyFleet.Proofs.Label.Segments
import ProxyFleet.Proofs.Label.Prefixes
import ProxyFleet.Proofs.Caddyfile.Quoting
import ProxyFleet.Proofs.Engine.EventLines
import ProxyFleet.Proofs.Caddyfile.Grouping
import ProxyFleet.Proofs.Template.Called
import ProxyFleet.Proofs.Fleet.Resolving
import ProxyFleet.Proofs.Template.Bounds
import ProxyFleet.Proofs.Template.Literal
import ProxyFleet.Proofs.Control.Punctual
import ProxyFleet.Proofs.Net.AddressText
import ProxyFleet.Proofs.Workload.Upstreams
import ProxyFleet.Proofs.Engine.Endpoints
import ProxyFleet.Proofs.Engine.Records
import ProxyFleet.Proofs.Fleet.Worded
