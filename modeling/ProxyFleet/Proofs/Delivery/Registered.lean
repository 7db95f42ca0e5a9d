import ProxyFleet.Proofs.Delivery.Ledger
import ProxyFleet.Proofs.Runs

/-!
The registry under pushes that go on at the same time. In whatever order rollouts begin and pushes
take their steps, what the ledger says of them stays right, and what is loaded is newer than what its
server has acknowledged.
-/

namespace ProxyFleet.Delivery

theorem modify_of_getElem? {α : Type} {xs : List α} {i : Nat} {x : α} (h : xs[i]? = some x) :
    ∃ before after, xs = before ++ x :: after ∧ ∀ f, xs.modify i f = before ++ f x :: after := by
  obtain ⟨hi, rfl⟩ := List.getElem?_eq_some_iff.1 h
  refine ⟨xs.take i, xs.drop (i + 1), ?_, fun f => List.modify_eq_take_cons_drop hi⟩
  rw [List.getElem_cons_drop, List.take_append_drop]

def Rollout.tasks (r : Rollout) : List (Load × Push) := r.pushes.map fun q => (r.load q.1, q.2)

theorem Rollout.tasks_new (version : Nat) (config : Json) (servers : List String) :
    (Rollout.new version config servers).tasks =
      servers.map fun server => (⟨server, version, config⟩, .waiting) := by
  simp [tasks, new, load]

theorem Rollout.tasks_setPush {r : Rollout} {i : Nat} {server : String} {p : Push}
    (h : r.pushes[i]? = some (server, p)) :
    ∃ before after, r.tasks = before ++ (r.load server, p) :: after ∧
      ∀ p', (r.setPush i p').tasks = before ++ (r.load server, p') :: after := by
  obtain ⟨before, after, hpushes, hmodify⟩ := modify_of_getElem? h
  refine ⟨before.map fun q => (r.load q.1, q.2), after.map fun q => (r.load q.1, q.2), ?_, ?_⟩
  · simp [tasks, hpushes]
  · intro p'
    simp [tasks, setPush, hmodify, load]

namespace Dispatch

variable {s t : Dispatch} {x : Step} {load : Load} {p : Push}

def pushes (s : Dispatch) : List (Load × Push) := s.rollouts.flatMap Rollout.tasks

theorem pushes_add (s : Dispatch) (r : Rollout) : (s.add r).pushes = s.pushes ++ r.tasks := by
  simp [pushes, add]

/-- The push at a place is one of the pushes, and only that one is set. -/
theorem pushes_setPush {d i : Nat} (h : s.push? d i = some (load, p)) :
    ∃ before after, s.pushes = before ++ (load, p) :: after ∧
      ∀ p', (s.setPush d i p').pushes = before ++ (load, p') :: after := by
  simp only [push?, Option.bind_eq_bind, Option.bind_eq_some_iff] at h
  obtain ⟨r, hr, ⟨server, q⟩, hq, he⟩ := h
  cases he
  obtain ⟨rollouts, rollouts', hrollouts, hmodify⟩ := modify_of_getElem? hr
  obtain ⟨before, after, htasks, hset⟩ := Rollout.tasks_setPush hq
  refine ⟨rollouts.flatMap Rollout.tasks ++ before,
    after ++ rollouts'.flatMap Rollout.tasks, ?_, fun p' => ?_⟩
  · simp [pushes, hrollouts, htasks]
  · simp [pushes, setPush, hmodify, hset]

/-- What a step of a push does to the ledger and to the pushes. -/
theorem takes_of_step? (h : s.step? x = some t) : ∃ load p p' before after,
    s.push? x.rollout x.push = some (load, p) ∧ s.toLedger.Takes load p x.move t.toLedger p' ∧
      s.pushes = before ++ (load, p) :: after ∧ t.pushes = before ++ (load, p') :: after := by
  simp only [step?, Option.bind_eq_bind, Option.bind_eq_some_iff] at h
  obtain ⟨⟨load, p⟩, hp, ⟨ledger, p'⟩, hm, he⟩ := h
  cases he
  obtain ⟨before, after, hpushes, hset⟩ := pushes_setPush hp
  exact ⟨load, p, p', before, after, hp, Ledger.takes_of_advance hm, hpushes, hset p'⟩

theorem forall_load_of_step? {P : Load → Prop} (h : s.step? x = some t)
    (hpushes : ∀ y ∈ s.pushes, P y.1) (hloads : ∀ y ∈ s.loads, P y) :
    (∀ y ∈ t.pushes, P y.1) ∧ ∀ y ∈ t.loads, P y := by
  obtain ⟨load, p, p', before, after, -, hm, hs, ht⟩ := takes_of_step? h
  simp only [hs, List.forall_mem_append, List.forall_mem_cons] at hpushes
  obtain ⟨hbefore, hload, hafter⟩ := hpushes
  constructor
  · simp only [ht, List.forall_mem_append, List.forall_mem_cons]
    exact ⟨hbefore, hload, hafter⟩
  · rw [hm.loads_eq]
    refine List.forall_mem_append.2 ⟨hloads, ?_⟩
    split
    · exact List.forall_mem_singleton.2 hload
    · exact List.forall_mem_nil _

/-- How many updates of the server are live. -/
def liveFor (s : Dispatch) (server : String) : Nat := s.pushes.countP (isLiveFor server)

inductive Event where
  /-- Another rollout, of any version and in any order. -/
  | rollout (version : Nat) (config : Json) (servers : List String)
  | push (step : Step)

def happen? (s : Dispatch) : Event → Option Dispatch
  | .rollout version config servers => some (s.add (.new version config servers))
  | .push step => s.step? step

theorem agrees_add (h : s.Agrees s.pushes) (version : Nat) (config : Json)
    (servers : List String) :
    (s.add (.new version config servers)).Agrees (s.add (.new version config servers)).pushes := by
  rw [pushes_add]
  refine h.append_waiting fun y hy => ?_
  rw [Rollout.tasks_new] at hy
  obtain ⟨server, -, rfl⟩ := List.mem_map.1 hy
  rfl

theorem agrees_step? (h : s.Agrees s.pushes) (hs : s.step? x = some t) : t.Agrees t.pushes := by
  obtain ⟨load, p, p', before, after, -, hm, hpushes, hpushes'⟩ := takes_of_step? hs
  rw [hpushes']
  rw [hpushes] at h
  exact ((h.perm List.perm_middle).takes hm).perm List.perm_middle.symm

theorem agrees_happen? {e : Event} (h : s.Agrees s.pushes) (he : s.happen? e = some t) :
    t.Agrees t.pushes := by
  cases e with
  | rollout version config servers =>
    obtain rfl := Option.some.inj he
    exact agrees_add h version config servers
  | push x => exact agrees_step? h he

theorem agrees_of_run {events : List Event} (hs : s.Agrees s.pushes)
    (h : run? happen? s events = some t) : t.Agrees t.pushes :=
  run?_induction (P := fun _ t => t.Agrees t.pushes) hs (fun _ ih he => agrees_happen? ih he) h

theorem version_le_of_run {events : List Event} (h : run? happen? s events = some t)
    (server : String) :
    (s.registry.standing server).version ≤ (t.registry.standing server).version := by
  refine run?_induction
    (P := fun _ t => (s.registry.standing server).version ≤ (t.registry.standing server).version)
    (Nat.le_refl _) ?_ h
  intro _ r e t _ ih he
  refine Nat.le_trans ih ?_
  cases e with
  | rollout version config servers =>
    obtain rfl := Option.some.inj he
    exact Nat.le_refl _
  | push x =>
    obtain ⟨load, p, p', before, after, -, hm, -⟩ := takes_of_step? he
    exact hm.version_le server

/-- What is loaded from now on is newer than what its server has acknowledged by now. -/
theorem loads_of_run {events : List Event} (hs : s.Agrees s.pushes)
    (h : run? happen? s events = some t) : ∃ new, t.loads = s.loads ++ new ∧
      ∀ x ∈ new, (s.registry.standing x.server).version < x.version := by
  refine run?_induction (P := fun _ t => ∃ new, t.loads = s.loads ++ new ∧
    ∀ x ∈ new, (s.registry.standing x.server).version < x.version) ⟨[], by simp, nofun⟩ ?_ h
  rintro events r e t hr ⟨new, hloads, hnew⟩ he
  cases e with
  | rollout version config servers =>
    obtain rfl := Option.some.inj he
    exact ⟨new, hloads, hnew⟩
  | push x =>
    obtain ⟨load, p, p', before, after, -, hm, hpushes, -⟩ := takes_of_step? he
    refine ⟨new ++ if x.move = .send then [load] else [], ?_, ?_⟩
    · rw [hm.loads_eq, hloads, List.append_assoc]
    · refine List.forall_mem_append.2 ⟨hnew, ?_⟩
      split
      · next hsend =>
        rw [hsend] at hm
        obtain rfl := hm.eq_admitted
        have hmem : (load, Push.admitted) ∈ r.pushes := by simp [hpushes]
        have hnewer := (agrees_of_run hs hr).newer _ hmem rfl
        refine List.forall_mem_singleton.2 ?_
        exact Nat.lt_of_le_of_lt (version_le_of_run hr load.server) hnewer
      · exact List.forall_mem_nil _

/-- To begin, finish or give up pushes is nothing but steps of them. -/
theorem exists_happen?_steps (s : Dispatch) (xs : List Step) :
    ∃ taken : List Step, taken.Sublist xs ∧
      run? happen? s (taken.map .push) = some (s.steps xs) := by
  obtain ⟨taken, hsub, hrun⟩ := exists_run?_foldl step? xs s
  refine ⟨taken, hsub, ?_⟩
  rw [run?, List.foldlM_map]
  exact hrun

theorem push?_setPush {d i : Nat} (h : s.push? d i = some (load, p)) (p' : Push) :
    (s.setPush d i p').push? d i = some (load, p') := by
  simp only [push?, Option.bind_eq_bind, Option.bind_eq_some_iff] at h
  obtain ⟨r, hr, ⟨server, q⟩, hq, he⟩ := h
  cases he
  simp [push?, setPush, Rollout.setPush, Rollout.load, hr, hq]

theorem updating_iff (h : s.Agrees s.pushes) (server : String) :
    (s.registry.standing server).updating = true ↔ s.liveFor server = 1 := by
  have hcount : s.liveFor server = _ := h.updating server
  rw [hcount]
  split <;> simp [*]

theorem liveFor_le_one (h : s.Agrees s.pushes) (server : String) : s.liveFor server ≤ 1 := by
  have hcount : s.liveFor server = _ := h.updating server
  rw [hcount]
  split <;> simp

theorem started_iff (h : s.Agrees s.pushes) (server : String) (version : Nat) (u : Update) :
    (s.registry.start server version).1 = .started u ↔
      u = ⟨server, version⟩ ∧ s.liveFor server = 0 ∧
        (s.registry.standing server).version < version := by
  have hcount : s.liveFor server = _ := h.updating server
  rw [Registry.start_eq_started, hcount]
  split <;> simp [*]

/-- A push that waits can ask at any time, and is admitted exactly if it gets an update. -/
theorem exists_step?_ask {d i : Nat} (h : s.push? d i = some (load, .waiting)) :
    ∃ t p, s.step? ⟨d, i, .ask⟩ = some t ∧ t.push? d i = some (load, p) ∧
      (p = .admitted ↔ (s.registry.start load.server load.version).1 = .started load.update) ∧
      (p = .done .skipped ↔ p ≠ .admitted) := by
  obtain ⟨l', p', hm⟩ : ∃ l' p', s.toLedger.advance load .waiting .ask = some (l', p') := by
    simp only [Ledger.advance]
    split <;> simp
  refine ⟨{ s with toLedger := l' }.setPush d i p', p', ?_, ?_, ?_⟩
  · simp [step?, h, hm]
  · exact push?_setPush h p'
  · rw [Registry.start_eq_started]
    cases Ledger.takes_of_advance hm with
    | start idle newer => simp [Load.update, idle, newer]
    | skip unfit =>
      rcases unfit with hbusy | hold
      · simp [hbusy]
      · simp [Nat.not_lt.2 hold]

theorem isSome_step? {d i : Nat} (h : s.push? d i = some (load, p)) (m : Move) :
    (s.step? ⟨d, i, m⟩).isSome = true ↔ m ∈ p.moves := by
  rw [← Ledger.isSome_advance s.toLedger load p m]
  cases hm : s.toLedger.advance load p m <;> simp [step?, h, hm]

theorem exists_takes (hp : s.push? x.rollout x.push = some (load, p)) (hs : s.step? x = some t) :
    ∃ p', s.toLedger.Takes load p x.move t.toLedger p' := by
  obtain ⟨load', q, p', before, after, hp', hm, -⟩ := takes_of_step? hs
  obtain ⟨rfl, rfl⟩ := Prod.mk.inj (Option.some.inj (hp.symm.trans hp'))
  exact ⟨p', hm⟩

/-- What a step of a push does to the registry: it records what the server has loaded, and no update
of the server is live after one that ends the push. Other servers are not concerned. -/
theorem registry_step (h : s.Agrees s.pushes) (hp : s.push? x.rollout x.push = some (load, p))
    (hs : s.step? x = some t) :
    t.acknowledged = s.acknowledged ++ (if x.move = .record then [load.update] else []) ∧
      (p.isLive = true → x.move ∈ [.release, .fail, .cancel] → t.liveFor load.server = 0) ∧
      ∀ other ≠ load.server,
        t.registry.standings.get? other = s.registry.standings.get? other := by
  obtain ⟨p', hm⟩ := exists_takes hp hs
  refine ⟨hm.acknowledged_eq, fun hlive hends => ?_, fun other hne => hm.get?_of_ne hne⟩
  have hcount : t.liveFor load.server = _ := (agrees_step? h hs).updating load.server
  rw [hcount, hm.updating_eq hlive hends]
  rfl

/-- In whatever order rollouts begin and pushes take their steps, the registry is right at any time:
a server is updating exactly while one update of it is live, and never more are; its version is the
newest that it has acknowledged, and what it acknowledges grows; an update is given exactly if none
is live and its version is newer; and a step of a push concerns no server but its own. Nothing is
ever stuck: a push can make each of its moves. -/
theorem registry_exact {events : List Event} (h : run? happen? {} events = some s) :
    (∀ server,
      ((s.registry.standing server).updating = true ↔ s.liveFor server = 1) ∧
      s.liveFor server ≤ 1 ∧
      (s.registry.standing server).version = (s.versionsOf server).max?.getD 0 ∧
      (s.versionsOf server).Pairwise (· < ·) ∧
      ∀ version u, (s.registry.start server version).1 = .started u ↔
        u = ⟨server, version⟩ ∧ s.liveFor server = 0 ∧
          (s.registry.standing server).version < version) ∧
    (∀ more t, run? happen? s more = some t → ∀ server,
      (s.registry.standing server).version ≤ (t.registry.standing server).version) ∧
    (∀ d i load, s.push? d i = some (load, .waiting) →
      ∃ t p, s.step? ⟨d, i, .ask⟩ = some t ∧ t.push? d i = some (load, p) ∧
        (p = .admitted ↔ s.liveFor load.server = 0 ∧
          (s.registry.standing load.server).version < load.version) ∧
        (p = .done .skipped ↔ p ≠ .admitted)) ∧
    (∀ d i load p m, s.push? d i = some (load, p) →
      ((s.step? ⟨d, i, m⟩).isSome = true ↔ m ∈ p.moves)) ∧
    ∀ x load p t, s.push? x.rollout x.push = some (load, p) → s.step? x = some t →
      t.acknowledged = s.acknowledged ++ (if x.move = .record then [load.update] else []) ∧
        (p.isLive = true → x.move ∈ [.release, .fail, .cancel] → t.liveFor load.server = 0) ∧
        ∀ other ≠ load.server,
          t.registry.standings.get? other = s.registry.standings.get? other := by
  have hagrees := agrees_of_run Ledger.agrees_nil h
  refine ⟨fun server => ⟨updating_iff hagrees server, ?_, hagrees.version server,
    hagrees.increasing server, started_iff hagrees server⟩, ?_, ?_, ?_, ?_⟩
  · exact liveFor_le_one hagrees server
  · intro more t hmore server
    exact version_le_of_run hmore server
  · intro d i load hp
    obtain ⟨t, p, ht, hp', hadmitted, hskipped⟩ := exists_step?_ask hp
    refine ⟨t, p, ht, hp', hadmitted.trans ?_, hskipped⟩
    simp [started_iff hagrees, Load.update]
  · intro d i load p m hp
    exact isSome_step? hp m
  · intro x load p t hp ht
    exact registry_step hagrees hp ht

/-- Two rollouts that overlap at one server: the second skips it while the first waits for it, and
the version of the second is delivered by a third. Another server fails to load. -/
def overlappingRollouts : List Event :=
  [.rollout 1 .null ["a", "b"], .push ⟨0, 0, .ask⟩, .push ⟨0, 1, .ask⟩, .push ⟨0, 0, .send⟩,
    .rollout 2 .null ["a"], .push ⟨1, 0, .ask⟩, .push ⟨0, 1, .send⟩, .push ⟨0, 0, .record⟩,
    .push ⟨0, 1, .fail⟩, .push ⟨0, 0, .release⟩, .rollout 2 .null ["a", "b"], .push ⟨2, 0, .ask⟩,
    .push ⟨2, 0, .send⟩, .push ⟨2, 0, .record⟩]

def afterOverlappingRollouts : Dispatch := (run? happen? {} overlappingRollouts).getD {}

theorem registry_exact_overlappingRollouts :
    run? happen? {} overlappingRollouts = some afterOverlappingRollouts ∧
      (afterOverlappingRollouts.registry.standing "a").updating = true ∧
      (afterOverlappingRollouts.registry.standing "a").version = [1, 2].max?.getD 0 ∧
      (afterOverlappingRollouts.registry.start "b" 2).1 = .started ⟨"b", 2⟩ := by
  have hrun : run? happen? {} overlappingRollouts = some afterOverlappingRollouts := rfl
  have hexact := (registry_exact hrun).1
  obtain ⟨hupdating, -, hversion, -, -⟩ := hexact "a"
  obtain ⟨-, -, -, -, hstarted⟩ := hexact "b"
  refine ⟨hrun, hupdating.2 (by decide), ?_, (hstarted 2 ⟨"b", 2⟩).2 ⟨rfl, ?_, ?_⟩⟩
  · have hversions : afterOverlappingRollouts.versionsOf "a" = [1, 2] := by decide
    rw [hversion, hversions]
  · decide
  · decide

end Dispatch

end ProxyFleet.Delivery
