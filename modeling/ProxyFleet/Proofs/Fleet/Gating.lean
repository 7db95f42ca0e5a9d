import Mathlib.Algebra.Order.BigOperators.Group.List
import Mathlib.Algebra.Order.Group.Nat
import ProxyFleet.Engine.Inventory
import ProxyFleet.Proofs.Fleet.Related

/-!
What an engine that is not known to be a node of a swarm is asked, and what comes of it. Its
services and configs count for nothing, but it is asked for the tasks of services that others list:
where it cannot tell them, such a service has no addresses at all.
-/

namespace ProxyFleet.Fleet

open Engine (Answers Query Service)

/-- What only nodes of a swarm can answer is asked of engines that are known to be one. -/
def Admitted (s : Surroundings) (m : Memory) (i : Nat) (q : Query) : Prop :=
  q.needsSwarm = true → (swarmKnown s m).2[i]? = some true

/-- A node lists the service, and its tasks are asked for. -/
def Sought (o : Options) (s : Surroundings) (m : Memory) (service : String) : Prop :=
  ∃ (i : Nat) (e : Answers) (services : List Service) (sv : Service), s.engines[i]? = some e ∧
    (swarmKnown s m).2[i]? = some true ∧ e .services = .ok services ∧ sv ∈ services ∧
    sv.id = service ∧ needsTasks o sv = true

/-- The questions whose answers count: for tasks all engines are asked. -/
def Heard (o : Options) (s : Surroundings) (m : Memory) (i : Nat) (q : Query) : Prop :=
  Admitted s m i q ∨ ∃ service, q = .tasks service ∧ Sought o s m service

/-- Two runs in whose cycles the answers to all questions that are `heard` agree. -/
def RunsAgree {α : Type} (heard : Surroundings → Memory → Nat → Query → Prop) (o : Options)
    (validate : Caddyfile.Validator α) : Memory → List Surroundings → List Surroundings → Prop
  | _, [], [] => True
  | m, s :: later, s' :: later' =>
    s.AgreeOn (heard s m) s' ∧
      RunsAgree heard o validate (cycle o validate s m).value.2 later later'
  | _, _, _ => False

/-- If each cycle goes by what it hears, so does a run. -/
theorem generated_congr {α : Type} {heard : Surroundings → Memory → Nat → Query → Prop}
    {o : Options} {validate : Caddyfile.Validator α}
    (hcycle : ∀ s s' m, s.AgreeOn (heard s m) s' →
      (cycle o validate s m).value = (cycle o validate s' m).value)
    {m : Memory} {ss ss' : List Surroundings} (h : RunsAgree heard o validate m ss ss') :
    generated o validate m ss = generated o validate m ss' := by
  induction ss generalizing m ss' with
  | nil =>
    cases ss' with
    | nil => rfl
    | cons s' later' => exact h.elim
  | cons s later ih =>
    cases ss' with
    | nil => exact h.elim
    | cons s' later' =>
      obtain ⟨hs, hlater⟩ := h
      have hnext := ih hlater
      rw [hcycle s s' m hs] at hnext
      rw [generated, generated, hcycle s s' m hs, hnext]

section Agreement

variable {o : Options} {s s' : Surroundings} {m : Memory}

theorem Surroundings.AgreeOn.networks (h : s.AgreeOn (Admitted s m) s') :
    s.AgreeOn (fun _ => tellsNetworks) s' := by
  apply h.anti
  intro i q hq
  cases q <;> first | exact hq.elim | exact nofun

/-- Which engines are nodes is found out before anything that only nodes are asked. -/
theorem Surroundings.AgreeOn.swarmKnown_eq (h : s.AgreeOn (Admitted s m) s') :
    swarmKnown s m = swarmKnown s' m :=
  swarmKnown_congr h (fun _ _ _ hxy => congrArg isActive (hxy nofun)) m

theorem Surroundings.AgreeOn.admitted (h : s.AgreeOn (Heard o s m) s') :
    s.AgreeOn (Admitted s m) s' :=
  h.anti fun _ _ => .inl

/-- An engine's shares come from what it is heard to answer. -/
theorem engineShares_of_heard (h : s.AgreeOn (Heard o s m) s') {i : Nat} {e e' : Answers}
    {swarm : Bool} (he : s.engines[i]? = some e) (he' : s'.engines[i]? = some e')
    (hnode : (swarmKnown s m).2[i]? = some swarm) (g : Groups) :
    engineShares o s.engines.zipIdx g ((e, i), swarm) =
      engineShares o s'.engines.zipIdx g ((e', i), swarm) := by
  have hanswers := h.answers i e e' he he'
  have hcontainers : e (.containers o.scanStopped) = e' (.containers o.scanStopped) :=
    hanswers _ (.inl nofun)
  cases swarm with
  | false => simp only [engineShares, hcontainers, Bool.false_eq_true, if_false]
  | true =>
    have hconfigs : e .configs = e' .configs := hanswers _ (.inl fun _ => hnode)
    have hservices : e .services = e' .services := hanswers _ (.inl fun _ => hnode)
    have hconfig : configShare o (e, i) = configShare o (e', i) :=
      configShare_congr fun _ => hanswers _ (.inl fun _ => hnode)
    have hservice : ∀ sv ∈ elements (e' .services),
        serviceShare o s.engines.zipIdx g sv = serviceShare o s'.engines.zipIdx g sv := by
      intro sv hsv
      obtain ⟨services, hlist, hmem⟩ := mem_elements.1 hsv
      rw [← hservices] at hlist
      apply serviceShare_congr
      intro hneeds
      apply tasksOf_congr
      -- The service is listed by a node, so that its tasks are asked of all engines.
      have hsought : Sought o s m sv.id := ⟨i, e, services, sv, he, hnode, hlist, hmem, rfl, hneeds⟩
      exact h.anti fun _ _ hq => .inr ⟨sv.id, hq, hsought⟩
    simp only [engineShares, hcontainers, hconfigs, hservices, hconfig, if_true,
      List.map_congr_left hservice]

theorem cycle_eq_of_heard {α : Type} (validate : Caddyfile.Validator α)
    (h : s.AgreeOn (Heard o s m) s') :
    (cycle o validate s m).value = (cycle o validate s' m).value := by
  have hsettled := settled_congr h.admitted.networks o m
  apply value_cycle_congr validate h hsettled h.admitted.swarmKnown_eq
  intro i e e' swarm he he' hnode
  exact engineShares_of_heard h he he' hnode _

end Agreement

/-! An engine that cannot tell tasks keeps the addresses of every service from being found. -/

/-- One failure is enough for nothing to be gathered. -/
theorem value_gather_error {α β : Type} {f : α → Journaled (Except Failure (List β))}
    {as : List α} {a : α} (ha : a ∈ as) {failure : Failure} (h : (f a).value = .error failure) :
    ∃ failure', (Journaled.gather f as).value = .error failure' := by
  induction as with
  | nil => cases ha
  | cons b bs ih =>
    simp only [Journaled.gather, Journaled.value_bind]
    cases hb : (f b).value with
    | error failure' => exact ⟨failure', rfl⟩
    | ok found =>
      rcases List.mem_cons.1 ha with rfl | ha
      · rw [h] at hb
        cases hb
      · obtain ⟨failure', hrest⟩ := ih ha
        exact ⟨failure', by simp only [Journaled.value_bind, hrest, Journaled.value_pure]⟩

def untellingTasks (e : Answers) : Answers
  | .tasks _ => .error ⟨"tasks are not known", []⟩
  | q => e q

def Surroundings.withoutTasks (s : Surroundings) (i : Nat) : Surroundings :=
  s.change i untellingTasks

section WithoutTasks

variable (o : Options) (s : Surroundings) {i : Nat}

theorem agreeOn_withoutTasks {heard : Nat → Query → Prop}
    (h : ∀ service, ¬heard i (.tasks service)) : s.AgreeOn heard (s.withoutTasks i) := by
  refine s.related_change (fun _ _ _ _ => rfl) i _ fun e _ q hq => ?_
  cases q <;> first | rfl | exact absurd hq (h _)

theorem tasksOf_withoutTasks (h : i < s.engines.length) (service : String) :
    ∃ failure, tasksOf (s.withoutTasks i).engines.zipIdx service = .error failure := by
  have hlen : i < (s.withoutTasks i).engines.length := by
    simpa only [Surroundings.withoutTasks, Surroundings.change, List.length_modify] using h
  have hmem : ((s.withoutTasks i).engines[i], i) ∈ (s.withoutTasks i).engines.zipIdx :=
    List.mem_of_getElem? (i := i) (by simp [hlen])
  have hengine : (s.withoutTasks i).engines[i] = untellingTasks s.engines[i] :=
    List.getElem_modify_eq ..
  rw [hengine] at hmem
  exact value_gather_error hmem rfl

/-- Where tasks are not known, no service has an address to be configured at. -/
theorem serviceServers_withoutTasks (h : i < s.engines.length) (g : Groups) (sv : Service) :
    (serviceServers o (s.withoutTasks i).engines.zipIdx g sv).value = [] := by
  obtain ⟨failure, hfail⟩ := tasksOf_withoutTasks s h sv.id
  rw [value_serviceServers, value_findTasks, hfail]
  split <;> rfl

end WithoutTasks

section Servers

variable (o : Options) (engines : List Numbered) (g : Groups)

def serversInContainers (e : Numbered) : List String :=
  (elements (e.1 (.containers o.scanStopped))).flatMap fun c => (containerServers o g c).value

def serversInServices (e : Numbered) : List String :=
  (elements (e.1 .services)).flatMap fun sv => (serviceServers o engines g sv).value

def engineServers (e : Numbered × Bool) : List String :=
  serversInContainers o g e.1 ++ if e.2 then serversInServices o engines g e.1 else []

theorem flatMap_servers_engineShares (e : Numbered × Bool) :
    (engineShares o engines g e).flatMap (·.servers) = engineServers o engines g e := by
  obtain ⟨e, swarm⟩ := e
  cases swarm <;>
    simp [engineShares, engineServers, serversInContainers, serversInServices, configShare,
      containerShare, serviceShare, List.flatMap_map]

theorem servers_cycle {α : Type} (validate : Caddyfile.Validator α) (s : Surroundings)
    (m : Memory) :
    (cycle o validate s m).value.1.servers =
      (s.engines.zipIdx.zip (swarmKnown s m).2).flatMap
        (engineServers o s.engines.zipIdx (settled o s m).2) ++ localServers o.mode := by
  simp [value_cycle, cycleShares, allShares, List.flatMap_assoc, flatMap_servers_engineShares]

end Servers

/-- An unavailable engine that cannot tell tasks takes away the servers found among services. -/
theorem length_servers_withoutTasks_lt {α : Type} (o : Options) (validate : Caddyfile.Validator α)
    (s : Surroundings) (m : Memory) {i j : Nat} {e : Answers} {services : List Service}
    {sv : Service} (hlen : i < s.engines.length)
    (hagree : s.AgreeOn (Admitted s m) (s.withoutTasks i))
    (he : s.engines[j]? = some e) (hnode : (swarmKnown s m).2[j]? = some true)
    (hlist : e .services = .ok services) (hsv : sv ∈ services)
    (hfound : (serviceServers o s.engines.zipIdx (settled o s m).2 sv).value ≠ []) :
    (cycle o validate (s.withoutTasks i) m).value.1.servers.length <
      (cycle o validate s m).value.1.servers.length := by
  have hleft (e : Numbered × Bool) :
      engineServers o (s.withoutTasks i).engines.zipIdx (settled o s m).2 e =
        serversInContainers o (settled o s m).2 e.1 := by
    simp [engineServers, serversInServices, serviceServers_withoutTasks o s hlen]
  have hsame : ((s.withoutTasks i).engines.zipIdx.zip (swarmKnown s m).2).map
      (fun e => (serversInContainers o (settled o s m).2 e.1).length) =
      (s.engines.zipIdx.zip (swarmKnown s m).2).map
        fun e => (serversInContainers o (settled o s m).2 e.1).length := by
    refine (map_zipIdx_zip_congr hagree.length _ fun j e e' swarm he he' hnode => ?_).symm
    have hcontainers := hagree.answers j e e' he he' (.containers o.scanStopped) nofun
    simp only [serversInContainers, hcontainers]
  -- Engine by engine the servers among containers are left, and at `j` that is not all.
  rw [servers_cycle, servers_cycle, ← settled_congr hagree.networks, ← hagree.swarmKnown_eq,
    List.length_append, List.length_append, List.length_flatMap, List.length_flatMap,
    funext hleft, hsame]
  refine Nat.add_lt_add_right (List.sum_lt_sum _ _ (fun e _ => ?_) ⟨((e, j), true), ?_, ?_⟩) _
  · rw [engineServers, List.length_append]
    exact Nat.le_add_right _ _
  · exact List.mem_of_getElem? (i := j) (by simp [List.getElem?_zip_eq_some, he, hnode])
  · rw [engineServers, List.length_append, if_pos rfl]
    have hmem : sv ∈ elements (e .services) := by rwa [hlist]
    refine Nat.lt_add_of_pos_right (List.length_pos_iff.2 fun hnone => ?_)
    exact hfound (List.flatMap_eq_nil_iff.1 hnone sv hmem)

/-- Runs in which the heard answers agree generate the same. Of an unavailable engine only tasks are
heard, but these are: as soon as a server is found among the services of a node, what an unavailable
engine answers about tasks makes a difference. -/
theorem generated_eq_of_heard {α : Type} (o : Options) (validate : Caddyfile.Validator α) :
    (∀ m ss ss', RunsAgree (Heard o) o validate m ss ss' →
      generated o validate m ss = generated o validate m ss') ∧
    ∀ (s : Surroundings) (m : Memory) (i j : Nat) (e : Answers) (services : List Service)
      (sv : Service), i < s.engines.length → (swarmKnown s m).2[i]? = some false →
      s.engines[j]? = some e → (swarmKnown s m).2[j]? = some true → e .services = .ok services →
      sv ∈ services → (serviceServers o s.engines.zipIdx (settled o s m).2 sv).value ≠ [] →
      ∃ s', s.AgreeOn (Admitted s m) s' ∧
        (cycle o validate s' m).value.1.servers ≠ (cycle o validate s m).value.1.servers := by
  constructor
  · intro m ss ss' h
    exact generated_congr (fun _ _ _ => cycle_eq_of_heard validate) h
  · intro s m i j e services sv hlen hoff he hnode hlist hsv hfound
    have hagree : s.AgreeOn (Admitted s m) (s.withoutTasks i) := by
      refine agreeOn_withoutTasks s fun service hasked => ?_
      have hon := hasked rfl
      rw [hoff] at hon
      cases hon
    refine ⟨s.withoutTasks i, hagree, fun hsame => ?_⟩
    have hless :=
      length_servers_withoutTasks_lt o validate s m hlen hagree he hnode hlist hsv hfound
    rw [hsame] at hless
    exact absurd hless (Nat.lt_irrefl _)

def replicatedServer : Service :=
  { id := "s1", name := "web",
    labels := Keyed.ofList [("caddy", "web.example"),
      ("caddy.reverse_proxy", "{{upstreams 80}}"), ("caddy_controlled_server", "")] }

def nodeAndOther (other : Engine.Inventory) : Surroundings :=
  { engines := [Engine.Inventory.answers
      { info := ⟨"active"⟩, services := [replicatedServer],
        tasks := [⟨"t1", "s1", "running", [⟨"n1", ["10.200.0.5/24"]⟩]⟩] }, other.answers],
    own := .ok "controller" }

def reachedIn (subnet : String) : Options :=
  { mode := .controller, ingressNetworks := [subnet], controllerNetwork := some subnet }

/-- If the two others answer alike what is `heard` of them, so do all engines. -/
theorem agreeOn_nodeAndOther {heard : Nat → Query → Prop} {other other' : Engine.Inventory}
    (h : ∀ q, heard 1 q → other.answers q = other'.answers q) :
    (nodeAndOther other).AgreeOn heard (nodeAndOther other') := by
  refine Surroundings.related_change (fun _ _ _ _ => rfl) (nodeAndOther other) 1
    (fun _ => other'.answers) fun e he q hq => ?_
  cases he
  exact h q hq

/-- Whatever the other engine is admitted to answer, any engine is. -/
theorem needsSwarm_of_admitted {q : Query} (h : Admitted (nodeAndOther {}) {} 1 q) :
    q.needsSwarm = false := by
  have hoff : (swarmKnown (nodeAndOther {}) {}).2[1]? ≠ some true := by decide +kernel
  exact eq_false_of_ne_true (mt h hoff)

/-- The services and configs of the other engine make no difference, its tasks do. -/
theorem generated_eq_replicatedServer :
    generated (reachedIn "10.200.0.0/16") (fun _ => .ok ()) {} [nodeAndOther {}] =
      generated (reachedIn "10.200.0.0/16") (fun _ => .ok ()) {}
        [nodeAndOther { services := [replicatedServer], failing := ["list_configs"] }] ∧
    ∃ s', (nodeAndOther {}).AgreeOn (Admitted (nodeAndOther {}) {}) s' ∧
      (cycle (reachedIn "10.200.0.0/16") (fun _ => .ok ()) s' {}).value.1.servers ≠
        (cycle (reachedIn "10.200.0.0/16") (fun _ => .ok ())
          (nodeAndOther {}) {}).value.1.servers := by
  obtain ⟨hsame, hdiffers⟩ :=
    generated_eq_of_heard (reachedIn "10.200.0.0/16") (fun _ => .ok ())
  constructor
  · refine hsame _ _ _ ⟨agreeOn_nodeAndOther fun q hq => ?_, trivial⟩
    rcases hq with hq | ⟨service, rfl, -⟩
    · have hneeds := needsSwarm_of_admitted hq
      cases q <;> first | rfl | cases hneeds
    · rfl
  · exact hdiffers (nodeAndOther {}) {} 1 0 _ [replicatedServer] replicatedServer (by decide)
      (by decide +kernel) rfl (by decide +kernel) rfl (List.mem_singleton_self _) (by decide +kernel)

/-- An engine that is no node of a swarm and cannot tell tasks takes the server away. -/
theorem not_gated_of_failing_tasks :
    ¬∀ (o : Options) (validate : Caddyfile.Validator Unit) (m : Memory)
        (ss ss' : List Surroundings),
      RunsAgree (fun s m => Admitted s m) o validate m ss ss' →
        generated o validate m ss = generated o validate m ss' := by
  intro h
  have hsame := h (reachedIn "10.200.0.0/16") (fun _ => .ok ()) {} [nodeAndOther {}]
    [nodeAndOther { failing := ["list_tasks"] }] ⟨agreeOn_nodeAndOther fun q hq => ?_, trivial⟩
  · have hservers := congrArg (List.map (·.servers)) hsame
    have hfound : (generated (reachedIn "10.200.0.0/16") (fun _ => Except.ok ()) {}
        [nodeAndOther {}]).map (·.servers) = [["10.200.0.5"]] := by decide +kernel
    have hlost : (generated (reachedIn "10.200.0.0/16") (fun _ => Except.ok ()) {}
        [nodeAndOther { failing := ["list_tasks"] }]).map (·.servers) = [[]] := by decide +kernel
    rw [hfound, hlost] at hservers
    exact absurd hservers (by decide)
  · have hneeds := needsSwarm_of_admitted hq
    cases q <;> first | rfl | cases hneeds

end ProxyFleet.Fleet
