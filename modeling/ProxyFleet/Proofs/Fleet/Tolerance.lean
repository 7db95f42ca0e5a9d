import Mathlib.Data.List.Forall2
import ProxyFleet.Engine.Inventory
import ProxyFleet.Proofs.Fleet.Related
import ProxyFleet.Proofs.Label.Rejected

/-!
What failures come to. An engine that cannot list something has nothing of it, a config that cannot
be inspected is empty, an engine that cannot say whether it is the node of a swarm is none, and a
workload with a label that cannot be read has no configuration. Nothing else changes.
-/

namespace ProxyFleet.Fleet

open Engine (Answers Query Labels Container Service)

def StandsFor : (q : Query) → q.Answer → Prop
  | .info, info => info.isSwarmActive = false
  | .containers _, found => found = []
  | .services, found => found = []
  | .configs, found => found = []
  | .config _, config => config.data = []
  | _, _ => False

/-- The answer is the same, or it stands for the failure in its place. -/
def Mended (q : Query) (x y : Except Failure q.Answer) : Prop :=
  x = y ∨ ∃ failure answer, x = .error failure ∧ y = .ok answer ∧ StandsFor q answer

theorem Mended.eq {q : Query} {x y : Except Failure q.Answer} (h : Mended q x y)
    (hq : ∀ answer, ¬StandsFor q answer) : x = y := by
  rcases h with h | ⟨_, answer, -, -, hanswer⟩
  · exact h
  · exact absurd hanswer (hq answer)

theorem elements_eq {α : Type} {x y : Except Failure (List α)}
    (h : x = y ∨ ∃ failure answer, x = .error failure ∧ y = .ok answer ∧ answer = []) :
    elements x = elements y := by
  rcases h with h | ⟨_, _, rfl, rfl, rfl⟩
  · rw [h]
  · rfl

theorem Mended.isActive_eq {x y : Except Failure Engine.Info} (h : Mended .info x y) :
    isActive x = isActive y := by
  rcases h with h | ⟨_, _, rfl, rfl, hinactive⟩
  · rw [h]
  · exact (hinactive : _ = false).symm

theorem configBlocks_congr {o : Options} {e e' : Answers} {i : Nat} {c : Engine.Config}
    (h : Mended (.config c.id) (e (.config c.id)) (e' (.config c.id))) :
    configBlocks o (e, i) c = configBlocks o (e', i) c := by
  simp only [configBlocks]
  rcases h with h | ⟨failure, full, h, h', hempty⟩
  · rw [h]
  · have hdata : full.data = [] := hempty
    simp only [h, h', hdata, parseBytes_nil]

section Mended

variable {s s' : Surroundings} (h : s.Related (fun _ => Mended) s')
include h

theorem engineShares_of_mended (o : Options) (g : Groups) {i : Nat} {e e' : Answers}
    (he : s.engines[i]? = some e) (he' : s'.engines[i]? = some e') (swarm : Bool) :
    engineShares o s.engines.zipIdx g ((e, i), swarm) =
      engineShares o s'.engines.zipIdx g ((e', i), swarm) := by
  have hanswers (q : Query) : Mended q (e q) (e' q) := h.answers i e e' he he' q
  have hconfigs : elements (e .configs) = elements (e' .configs) := elements_eq (hanswers .configs)
  have hcontainers : elements (e (.containers o.scanStopped)) =
      elements (e' (.containers o.scanStopped)) := elements_eq (hanswers (.containers _))
  have hservices : elements (e .services) = elements (e' .services) :=
    elements_eq (hanswers .services)
  have hconfig : configShare o (e, i) = configShare o (e', i) :=
    funext fun c => congrArg (Share.mk · []) (configBlocks_congr (hanswers (.config c.id)))
  have hservice : serviceShare o s.engines.zipIdx g = serviceShare o s'.engines.zipIdx g := by
    funext sv
    refine serviceShare_congr fun _ => tasksOf_congr (h.mono fun i q x y hxy hq => ?_)
    subst hq
    exact hxy.eq fun _ => id
  simp only [engineShares, hconfigs, hcontainers, hservices, hconfig, hservice]

theorem cycle_eq_of_mended {α : Type} (o : Options) (validate : Caddyfile.Validator α)
    (m : Memory) : (cycle o validate s m).value = (cycle o validate s' m).value := by
  have hnetworks : s.AgreeOn (fun _ => tellsNetworks) s' := by
    apply h.mono
    intro i q x y hxy hq
    apply hxy.eq
    intro answer hanswer
    cases q <;> first | exact hq.elim | exact hanswer.elim
  have hswarm := swarmKnown_congr h (fun _ _ _ => Mended.isActive_eq) m
  apply value_cycle_congr validate h (settled_congr hnetworks o m) hswarm
  intro i e e' swarm he he' _
  exact engineShares_of_mended h o _ he he' swarm

end Mended

/-! Workloads whose labels are rejected. -/

def Rejected (o : Options) (labels : Labels) : Prop :=
  ∃ data targets error, described o labels data targets = .error error

theorem sameNames_functions (targets targets' : Workload.Targets) (localDomain : Option String) :
    (Workload.functions targets localDomain).SameNames
      (Workload.functions targets' localDomain) := by
  intro name
  simp only [Template.Functions.defines, Template.Functions.find?, Workload.functions,
    List.lookup_cons]
  repeat' split
  all_goals rfl

/-- Labels are rejected whatever the addresses of the workload are: one has a bad path or a template
that cannot be read. -/
theorem rejected_iff {o : Options} {labels : Labels} (targets : Except Failure (List String)) :
    Rejected o labels ↔ ∃ entry ∈ (configLabels o.labelPrefix labels).entries,
      Label.Unreadable (Workload.functions (targets.mapError Failure.chain) o.localDomain)
        entry.1 entry.2 := by
  constructor
  · rintro ⟨data, targets', error, h⟩
    obtain ⟨entry, hentry, hbad⟩ := (Label.exists_blocks_error_iff _).1 ⟨error, h⟩
    exact ⟨entry, hentry, (Label.Unreadable.congr (sameNames_functions _ _ _)).1 hbad⟩
  · intro h
    exact ⟨.null, targets, (Label.exists_blocks_error_iff _).2 h⟩

theorem elements_described_of_rejected {o : Options} {labels : Labels} (h : Rejected o labels)
    (data : Json) (targets : Except Failure (List String)) :
    elements (described o labels data targets) = [] := by
  obtain ⟨error, herror⟩ := (Label.exists_blocks_error_iff data).2
    ((rejected_iff targets).1 h)
  have hdescribed : described o labels data targets = .error error := herror
  rw [hdescribed]
  rfl

/-- The labels that describe no configuration. -/
def unlabelled (o : Options) (labels : Labels) : Labels :=
  labels.filter fun label _ => !hasPrefix o.labelPrefix label

theorem elements_described_unlabelled (o : Options) (labels : Labels) (data : Json)
    (targets : Except Failure (List String)) :
    elements (described o (unlabelled o labels) data targets) = [] := by
  rw [described_of_isEmpty]
  · rfl
  · simp [configLabels, unlabelled, Keyed.filter, Keyed.isEmpty, List.filter_filter]

theorem contains_unlabelled {o : Options} {label : String}
    (h : hasPrefix o.labelPrefix label = false) (labels : Labels) :
    (unlabelled o labels).contains label = labels.contains label := by
  rw [Keyed.contains, unlabelled, Keyed.get?_filter labels (by simp [h]), Keyed.contains]

/-- With the usual name, the label that marks servers describes no configuration. -/
theorem hasPrefix_serverLabelOf (labelPrefix : String) :
    hasPrefix labelPrefix (serverLabelOf labelPrefix) = false := by
  rw [hasPrefix, serverLabelOf, String.toList_append,
    List.isPrefixOf?_eq_some_iff_append_eq.2 rfl]
  decide

section Stripped

variable (o : Options)

/-- The same container, or one with rejected labels and the same without them. -/
def StrippedContainer (c c' : Container) : Prop :=
  c = c' ∨ Rejected o c.labels ∧ c' = { c with labels := unlabelled o c.labels }

def StrippedService (sv sv' : Service) : Prop :=
  sv = sv' ∨ Rejected o sv.labels ∧ sv' = { sv with labels := unlabelled o sv.labels }

def Stripped (q : Query) (x y : Except Failure q.Answer) : Prop :=
  x = y ∨ match q with
    | .containers _ => List.Forall₂ (StrippedContainer o) (elements x) (elements y)
    | .services => List.Forall₂ (StrippedService o) (elements x) (elements y)
    | _ => False

variable {o} {g : Groups} {engines engines' : List Numbered}

theorem StrippedContainer.blocks_eq {c c' : Container} (h : StrippedContainer o c c') :
    (containerShare o g c).blocks = (containerShare o g c').blocks := by
  rcases h with rfl | ⟨hr, rfl⟩
  · rfl
  · simp only [containerShare, value_containerBlocks, elements_described_of_rejected hr,
      elements_described_unlabelled]

theorem StrippedContainer.share_eq (hlabel : hasPrefix o.labelPrefix o.serverLabel = false)
    {c c' : Container} (h : StrippedContainer o c c') :
    containerShare o g c = containerShare o g c' := by
  have hservers : (containerShare o g c).servers = (containerShare o g c').servers := by
    rcases h with rfl | ⟨-, rfl⟩
    · rfl
    · simp only [containerShare, value_containerServers, contains_unlabelled hlabel]
      rfl
  exact Share.ext h.blocks_eq hservers

theorem StrippedService.blocks_eq (htasks : ∀ id, tasksOf engines id = tasksOf engines' id)
    {sv sv' : Service} (h : StrippedService o sv sv') :
    (serviceShare o engines g sv).blocks = (serviceShare o engines' g sv').blocks := by
  rcases h with rfl | ⟨hr, rfl⟩
  · rw [serviceShare_congr fun _ => htasks sv.id]
  · simp only [serviceShare, value_serviceBlocks, elements_described_of_rejected hr,
      elements_described_unlabelled]

theorem StrippedService.share_eq (hlabel : hasPrefix o.labelPrefix o.serverLabel = false)
    (htasks : ∀ id, tasksOf engines id = tasksOf engines' id)
    {sv sv' : Service} (h : StrippedService o sv sv') :
    serviceShare o engines g sv = serviceShare o engines' g sv' := by
  have hservers : (serviceShare o engines g sv).servers =
      (serviceShare o engines' g sv').servers := by
    rcases h with rfl | ⟨-, rfl⟩
    · rw [serviceShare_congr fun _ => htasks sv.id]
    · simp only [serviceShare, value_serviceServers, value_findTasks, contains_unlabelled hlabel,
        htasks]
  exact Share.ext (h.blocks_eq htasks) hservers

theorem map_eq_map_of_forall₂ {α β : Type} {R : α → α → Prop} {f f' : α → β}
    (hf : ∀ a a', R a a' → f a = f' a') {as as' : List α} (h : List.Forall₂ R as as') :
    as.map f = as'.map f' := by
  rw [← List.forall₂_eq_eq_eq, List.forall₂_map_left_iff, List.forall₂_map_right_iff]
  exact h.imp hf

/-- Only answers about workloads change. -/
theorem Stripped.eq {q : Query} {x y : Except Failure q.Answer} (h : Stripped o q x y)
    (hcontainers : ∀ all, q ≠ .containers all) (hservices : q ≠ .services) : x = y := by
  rcases h with h | h
  · exact h
  · cases q with
    | containers all => exact absurd rfl (hcontainers all)
    | services => exact absurd rfl hservices
    | _ => exact h.elim

theorem Stripped.forall₂_containers {all : Bool} {x y : Except Failure (List Container)}
    (h : Stripped o (.containers all) x y) :
    List.Forall₂ (StrippedContainer o) (elements x) (elements y) := by
  rcases h with rfl | h
  · exact List.forall₂_same.2 fun c _ => .inl rfl
  · exact h

theorem Stripped.forall₂_services {x y : Except Failure (List Service)}
    (h : Stripped o .services x y) :
    List.Forall₂ (StrippedService o) (elements x) (elements y) := by
  rcases h with rfl | h
  · exact List.forall₂_same.2 fun sv _ => .inl rfl
  · exact h

section Cycle

variable {s s' : Surroundings} (h : s.Related (fun _ => Stripped o) s')
include h

theorem settled_of_stripped (m : Memory) : settled o s m = settled o s' m := by
  refine settled_congr (h.mono fun i q x y hxy hq => hxy.eq ?_ ?_) o m
  · rintro all rfl
    exact hq
  · rintro rfl
    exact hq

theorem swarmKnown_of_stripped (m : Memory) : swarmKnown s m = swarmKnown s' m :=
  swarmKnown_congr h (fun _ _ _ hxy => congrArg isActive (hxy.eq nofun nofun)) m

theorem tasksOf_of_stripped (service : String) :
    tasksOf s.engines.zipIdx service = tasksOf s'.engines.zipIdx service := by
  refine tasksOf_congr (h.mono fun i q x y hxy hq => ?_)
  subst hq
  exact hxy.eq nofun nofun

/-- What is the same of every stripped workload is the same of a cycle. -/
theorem map_cycleShares_of_stripped {β : Type} (f : Share → β) (m : Memory)
    (hc : ∀ g c c', StrippedContainer o c c' → f (containerShare o g c) = f (containerShare o g c'))
    (hs : ∀ g sv sv', StrippedService o sv sv' →
      f (serviceShare o s.engines.zipIdx g sv) = f (serviceShare o s'.engines.zipIdx g sv')) :
    (cycleShares o s m).map f = (cycleShares o s' m).map f := by
  refine map_cycleShares_congr f h (settled_of_stripped h m)
    (swarmKnown_of_stripped h m) fun i e e' swarm he he' _ => ?_
  have hanswers (q : Query) : Stripped o q (e q) (e' q) := h.answers i e e' he he' q
  have hconfigs : e .configs = e' .configs := (hanswers .configs).eq nofun nofun
  have hconfig : configShare o (e, i) = configShare o (e', i) :=
    configShare_congr fun _ => (hanswers _).eq nofun nofun
  have hcontainers := map_eq_map_of_forall₂ (hc (settled o s m).2)
    (hanswers (.containers o.scanStopped)).forall₂_containers
  have hservices := map_eq_map_of_forall₂ (hs (settled o s m).2)
    (hanswers .services).forall₂_services
  cases swarm <;>
    simp [engineShares, hconfigs, hconfig, hcontainers, hservices, Function.comp_def]

end Cycle

end Stripped

/-- Where engines fail, a cycle is that of the answers that failures stand for; and where labels are
rejected, the Caddyfile is that of the workloads without them, and so are the servers unless the
label that marks servers is one of them. -/
theorem failures_tolerated {α : Type} (o : Options) (validate : Caddyfile.Validator α)
    (s s' : Surroundings) (m : Memory) :
    (s.Related (fun _ => Mended) s' →
      (cycle o validate s m).value = (cycle o validate s' m).value) ∧
    (s.Related (fun _ => Stripped o) s' →
      (cycle o validate s m).value.1.caddyfile = (cycle o validate s' m).value.1.caddyfile ∧
        (cycle o validate s m).value.2 = (cycle o validate s' m).value.2 ∧
        (hasPrefix o.labelPrefix o.serverLabel = false →
          (cycle o validate s m).value.1.servers = (cycle o validate s' m).value.1.servers)) := by
  constructor
  · exact fun h => cycle_eq_of_mended h o validate m
  · intro h
    have hsettled := settled_of_stripped h m
    have hswarm := swarmKnown_of_stripped h m
    have hblocks := map_cycleShares_of_stripped h (·.blocks) m (fun _ _ _ => (·.blocks_eq))
      fun _ _ _ => (·.blocks_eq (tasksOf_of_stripped h))
    refine ⟨?_, ?_, fun hlabel => ?_⟩
    · rw [value_cycle, value_cycle, hblocks]
    · rw [value_cycle, value_cycle, hsettled, hswarm]
    · have hshares := map_cycleShares_of_stripped h id m (fun _ _ _ => (·.share_eq hlabel))
        fun _ _ _ => (·.share_eq hlabel (tasksOf_of_stripped h))
      rw [List.map_id, List.map_id] at hshares
      rw [value_cycle, value_cycle, hshares]

def alone (v : Engine.Inventory) : Surroundings :=
  { engines := [v.answers], own := .ok "controller" }

theorem related_alone {R : Comparison} (hrefl : ∀ j q x, R j q x x) {v v' : Engine.Inventory}
    (h : ∀ q, R 0 q (v.answers q) (v'.answers q)) : (alone v).Related R (alone v') := by
  refine Surroundings.related_change hrefl (alone v) 0 (fun _ => v'.answers) fun e he q => ?_
  cases he
  exact h q

def labelled (labels : List (String × String)) : Container :=
  { id := "w", labels := Keyed.ofList labels }

def nodeWith (labels : List (String × String)) (failing : List String) : Engine.Inventory :=
  { info := ⟨"active"⟩, containers := [labelled labels], failing }

/-- A node that lists containers only, and a container with a template that is not closed. -/
theorem failures_tolerated_alone :
    (cycle {} (fun _ => Except.ok ())
        (alone (nodeWith [("caddy", "a.example")] ["list_services", "list_configs"])) {}).value =
      (cycle {} (fun _ => Except.ok ()) (alone (nodeWith [("caddy", "a.example")] [])) {}).value ∧
    (cycle {} (fun _ => Except.ok ())
        (alone (nodeWith [("caddy", "\x7b\x7b.Id"), ("tier", "web")] [])) {}).value.1.servers =
      (cycle {} (fun _ => Except.ok ())
        (alone (nodeWith [("tier", "web")] [])) {}).value.1.servers := by
  have htolerated (s s' : Surroundings) := failures_tolerated {} (fun _ => Except.ok ()) s s' {}
  constructor
  · refine (htolerated _ _).1 (related_alone (fun _ _ _ => .inl rfl) fun q => ?_)
    cases q
    case services => exact .inr ⟨_, [], rfl, rfl, rfl⟩
    case configs => exact .inr ⟨_, [], rfl, rfl, rfl⟩
    all_goals exact .inl rfl
  · have hstripped : StrippedContainer {} (labelled [("caddy", "\x7b\x7b.Id"), ("tier", "web")])
        (labelled [("tier", "web")]) :=
      .inr ⟨⟨.null, .ok [], .template "caddy" ⟨.unclosedAction, 5⟩, by decide +kernel⟩,
        by decide +kernel⟩
    refine ((htolerated _ _).2 (related_alone (fun _ _ _ => .inl rfl) fun q => ?_)).2.2
      (hasPrefix_serverLabelOf _)
    cases q
    case containers all =>
      cases all <;> exact .inr (.cons hstripped .nil)
    case container id =>
      left
      by_cases hid : "w" = id
      · subst hid
        rfl
      · simp [nodeWith, labelled, Engine.Inventory.answers, Engine.Inventory.check,
          Engine.Inventory.answer, Engine.Inventory.inspect, hid]
    all_goals exact .inl rfl

end ProxyFleet.Fleet
