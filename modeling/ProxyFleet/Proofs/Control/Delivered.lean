import ProxyFleet.Proofs.Control.Versioned
import ProxyFleet.Proofs.Delivery.Outcomes

/-!
No server is left behind by a delivery. Whatever other deliveries do meanwhile, each push of a
rollout comes to something for a reason that the run shows, and a server whose load failed is as it
was, so that the next rollout that finds it idle loads it.
-/

namespace ProxyFleet.Control.Loop

open Delivery (Push Rollout Outcome Load)

variable {l m t begun u : Loop} {x : Step} {trace steps later : List Step} {d i : Nat}

def next (l : Loop) : Nat := l.dispatch.rollouts.length

/-- The servers of the cycle that ends with the step, unless its conversion has failed. -/
def cycleServers? (l : Loop) : Step → Option (List String)
  | .generated g => if l.versions.last = some g.caddyfile then some g.servers else none
  | .converted (.ok _) => l.converting.map (·.servers)
  | _ => none

/-- A cycle ends with the step, and there is a version to be delivered to the servers. -/
structure Delivers (l : Loop) (x : Step) (m : Loop) (servers : List String) : Prop where
  step : l.step? x = some m
  servers : l.cycleServers? x = some servers
  version : 0 < m.versions.number

theorem deliver_eq {change : Change} {config : Json} (hconfig : l.versions.config = some config)
    (accepted : ∀ failure, change ≠ .rejected failure) (servers : List String) :
    l.deliver change servers =
      { l with dispatch := l.dispatch.add (.new l.versions.number config servers) } := by
  cases change with
  | rejected failure => exact absurd rfl (accepted failure)
  | same | accepted => simp [deliver, Versions.rollout?, hconfig]

/-- The cycle begins a rollout of the version that there is at its end, changed or not. -/
theorem Delivers.begins (hl : Versioned trace l) {servers : List String}
    (h : Delivers l x m servers) : ∃ config, m.versions.config = some config ∧
      m.dispatch = l.dispatch.add (.new m.versions.number config servers) := by
  obtain ⟨hstep, hservers, hversion⟩ := h
  cases takes_of_step? hstep with
  | @unchanged g idle same =>
    rw [cycleServers?, if_pos same] at hservers
    obtain rfl := Option.some.inj hservers
    obtain ⟨config, hconfig⟩ : ∃ config, l.versions.config = some config := by
      rw [versions_deliver, hl.number, List.length_pos_iff] at hversion
      rw [hl.config]
      exact ⟨_, List.getLast?_eq_some_getLast hversion⟩
    refine ⟨config, by rw [versions_deliver, hconfig], ?_⟩
    rw [versions_deliver, deliver_eq hconfig (by simp)]
  | @accepted g config awaited =>
    rw [cycleServers?, awaited] at hservers
    obtain rfl := Option.some.inj hservers
    exact ⟨config, by rw [versions_deliver], by rw [versions_deliver, deliver_eq rfl (by simp)]⟩
  | changed idle differs =>
    rw [cycleServers?, if_neg differs] at hservers
    cases hservers
  | rejected | push => cases hservers

/-- A step of the loop is a step of a push, or leaves all pushes as they are. -/
theorem dispatch_of_step? (h : l.step? x = some m) :
    (∃ y, x = .push y ∧ l.dispatch.step? y = some m.dispatch) ∨ (∀ y, x ≠ .push y) ∧
      (m.dispatch = l.dispatch ∨ ∃ r, m.dispatch = l.dispatch.add r) := by
  cases takes_of_step? h with
  | unchanged | accepted =>
    refine .inr ⟨nofun, (dispatch_deliver _ _ _).imp_right ?_⟩
    rintro ⟨config, -, hadded⟩
    exact ⟨_, hadded⟩
  | changed | rejected => exact .inr ⟨nofun, .inl rfl⟩
  | @push y dispatch taken => exact .inl ⟨y, rfl, taken⟩

theorem agrees_of_run (hl : l.dispatch.Agrees l.dispatch.pushes)
    (h : run? step? l steps = some m) : m.dispatch.Agrees m.dispatch.pushes := by
  obtain ⟨events, hevents⟩ := exists_happen?_of_run h
  exact Delivery.Dispatch.agrees_of_run hl hevents

/-! What the pushes of one rollout do. -/

def Step.isOf (d : Nat) : Step → Bool
  | .push y => y.rollout = d
  | _ => false

/-- What there is before and after each step of the rollout's pushes. -/
def transitions (d : Nat) (l : Loop) : List Step → List (Loop × Loop)
  | [] => []
  | x :: more =>
    match l.step? x with
    | some m => if x.isOf d then (l, m) :: m.transitions d more else m.transitions d more
    | none => []

/-- By how much the rollout's pushes raise the count of an outcome. -/
def raised (d : Nat) (l : Loop) (steps : List Step) (o : Outcome) : Nat :=
  (l.transitions d steps).foldl
    (fun n x => n + (x.2.dispatch.tally.count o - x.1.dispatch.tally.count o)) 0

theorem transitions_concat (h : run? step? l steps = some m) (hs : m.step? x = some t) :
    l.transitions d (steps ++ [x]) =
      l.transitions d steps ++ if x.isOf d then [(m, t)] else [] := by
  induction steps generalizing l with
  | nil =>
    obtain rfl := Option.some.inj h
    simp [transitions, hs]
  | cons y steps ih =>
    rw [run?_cons, Option.bind_eq_some_iff] at h
    obtain ⟨r, hr, hm⟩ := h
    rw [List.cons_append, transitions, transitions, hr]
    simp only [ih hm]
    split
    · rw [List.cons_append]
    · rfl

def TakenAt (begun : Loop) (steps : List Step) (x : Step) (u : Loop) (later : List Step) : Prop :=
  ∃ earlier, steps = earlier ++ x :: later ∧ run? step? begun earlier = some u

theorem TakenAt.concat (h : TakenAt begun steps x u later) (y : Step) :
    TakenAt begun (steps ++ [y]) x u (later ++ [y]) := by
  obtain ⟨earlier, rfl, hrun⟩ := h
  exact ⟨earlier, by simp, hrun⟩

theorem takenAt_last (h : run? step? begun steps = some u) (x : Step) :
    TakenAt begun (steps ++ [x]) x u [] := ⟨steps, rfl, h⟩

theorem TakenAt.exists_step? (h : TakenAt begun steps x u later)
    (hrun : run? step? begun steps = some m) :
    ∃ v, u.step? x = some v ∧ run? step? v later = some m := by
  obtain ⟨earlier, rfl, hu⟩ := h
  rw [run?_append, hu, Option.bind_some, run?_cons, Option.bind_eq_some_iff] at hrun
  exact hrun

/-- Why a push is where it is after these steps. -/
inductive Explained (begun : Loop) (steps : List Step) (l : Loop) (d i : Nat) (load : Load) :
    Push → Prop
  | waiting (unsent : .push ⟨d, i, .send⟩ ∉ steps) : Explained begun steps l d i load .waiting
  | admitted (unsent : .push ⟨d, i, .send⟩ ∉ steps) : Explained begun steps l d i load .admitted
  | loading : Explained begun steps l d i load .loading
  | recorded (acknowledged : load.version ∈ l.dispatch.versionsOf load.server) :
    Explained begun steps l d i load .recorded
  | ok (acknowledged : load.version ∈ l.dispatch.versionsOf load.server) :
    Explained begun steps l d i load (.done .ok)
  | failed (fails : .push ⟨d, i, .fail⟩ ∈ steps) : Explained begun steps l d i load (.done .failed)
  | upToDate (unsent : .push ⟨d, i, .send⟩ ∉ steps)
    (acknowledged : ∃ v ∈ l.dispatch.versionsOf load.server, load.version ≤ v) :
    Explained begun steps l d i load (.done .skipped)
  | inFlight (unsent : .push ⟨d, i, .send⟩ ∉ steps)
    (elsewhere : ∃ u later, TakenAt begun steps (.push ⟨d, i, .ask⟩) u later ∧
      u.dispatch.IsElsewhere d i load.server) :
    Explained begun steps l d i load (.done .skipped)
  | cancelled (cancels : .push ⟨d, i, .cancel⟩ ∈ steps) :
    Explained begun steps l d i load .cancelled

namespace Explained

variable {load : Load} {p p' : Push} {move : Delivery.Move}

/-- Steps elsewhere take nothing away from a reason. -/
theorem keep (h : Explained begun steps l d i load p)
    (helse : ∀ move, x ≠ .push ⟨d, i, move⟩)
    (hgrows : l.dispatch.versionsOf load.server ⊆ m.dispatch.versionsOf load.server) :
    Explained begun (steps ++ [x]) m d i load p := by
  have hunsent : .push ⟨d, i, .send⟩ ∉ steps → .push ⟨d, i, .send⟩ ∉ steps ++ [x] := by
    intro hnot hmem
    rcases List.mem_append.1 hmem with hmem | hmem
    · exact hnot hmem
    · exact helse .send (List.mem_singleton.1 hmem).symm
  cases h with
  | waiting unsent => exact .waiting (hunsent unsent)
  | admitted unsent => exact .admitted (hunsent unsent)
  | loading => exact .loading
  | recorded acknowledged => exact .recorded (hgrows acknowledged)
  | ok acknowledged => exact .ok (hgrows acknowledged)
  | failed fails => exact .failed (List.mem_append_left _ fails)
  | upToDate unsent acknowledged =>
    obtain ⟨v, hv, hle⟩ := acknowledged
    exact .upToDate (hunsent unsent) ⟨v, hgrows hv, hle⟩
  | inFlight unsent elsewhere =>
    obtain ⟨u, later, htaken, helsewhere⟩ := elsewhere
    exact .inFlight (hunsent unsent) ⟨u, _, htaken.concat x, helsewhere⟩
  | cancelled cancels => exact .cancelled (List.mem_append_left _ cancels)

/-- A version that a server has, it has acknowledged. -/
theorem exists_acknowledged {server : String} {version : Nat}
    (hagrees : l.dispatch.Agrees l.dispatch.pushes) (hpos : 0 < version)
    (hle : version ≤ (l.dispatch.registry.standing server).version) :
    ∃ v ∈ l.dispatch.versionsOf server, version ≤ v := by
  rw [hagrees.version server] at hle
  cases hmax : (l.dispatch.versionsOf server).max? with
  | none =>
    rw [hmax, Option.getD_none] at hle
    omega
  | some v =>
    rw [hmax, Option.getD_some] at hle
    exact ⟨v, List.max?_mem hmax, hle⟩

/-- A move of the push itself gives the reason for where it gets. -/
theorem takes (h : Explained begun steps l d i load p) (hrun : run? step? begun steps = some l)
    (hagrees : l.dispatch.Agrees l.dispatch.pushes) (hp : l.dispatch.push? d i = some (load, p))
    (hm : l.dispatch.toLedger.Takes load p move m.dispatch.toLedger p') (hpos : 0 < load.version) :
    Explained begun (steps ++ [.push ⟨d, i, move⟩]) m d i load p' := by
  have hunsent : .push ⟨d, i, .send⟩ ∉ steps → move ≠ .send →
      .push ⟨d, i, .send⟩ ∉ steps ++ [.push ⟨d, i, move⟩] := by
    intro hnot hne hmem
    rcases List.mem_append.1 hmem with hmem | hmem
    · exact hnot hmem
    · cases List.mem_singleton.1 hmem
      exact hne rfl
  have hlast : .push ⟨d, i, move⟩ ∈ steps ++ [.push ⟨d, i, move⟩] :=
    List.mem_append_right _ (List.mem_singleton_self _)
  have hversions : m.dispatch.versionsOf load.server = _ := hm.versionsOf_eq load.server
  generalize m.dispatch.toLedger = ledger at hm
  cases hm with
  | start =>
    cases h with
    | waiting unsent => exact .admitted (hunsent unsent nofun)
  | skip unfit =>
    cases h with
    | waiting unsent =>
      rcases unfit with busy | old
      · exact .inFlight (hunsent unsent nofun) ⟨l, [], takenAt_last hrun _,
          Delivery.Dispatch.isElsewhere_of_updating hagrees hp busy⟩
      · obtain ⟨v, hv, hle⟩ := exists_acknowledged hagrees hpos old
        exact .upToDate (hunsent unsent nofun) ⟨v, by simpa [hversions] using hv, hle⟩
  | send => exact .loading
  | record => exact .recorded (by simp [hversions])
  | release =>
    cases h with
    | recorded acknowledged => exact .ok (by simpa [hversions] using acknowledged)
  | fail => exact .failed hlast
  | withdraw | cancel => exact .cancelled hlast

end Explained

theorem raised_concat (h : run? step? l steps = some m) (hs : m.step? x = some t) (o : Outcome) :
    l.raised d (steps ++ [x]) o = l.raised d steps o +
      if x.isOf d then t.dispatch.tally.count o - m.dispatch.tally.count o else 0 := by
  rw [raised, raised, transitions_concat h hs, List.foldl_append]
  split <;> rfl

theorem versionsOf_subset (hs : l.step? x = some m) (server : String) :
    l.dispatch.versionsOf server ⊆ m.dispatch.versionsOf server := by
  rcases dispatch_of_step? hs with ⟨y, -, htaken⟩ | ⟨-, hsame | ⟨r, hadded⟩⟩
  · obtain ⟨r, server', p, p', -, -, hm, -⟩ := Delivery.Dispatch.rollouts_of_step? htaken
    rw [hm.versionsOf_eq]
    exact List.subset_append_left _ _
  · rw [hsame]
    exact List.Subset.refl _
  · rw [hadded]
    exact List.Subset.refl _

section

variable {version : Nat} {config : Json} {servers : List String} {server : String} {r : Rollout}

/-- A rollout has just begun, and what the ledger says of all pushes is so. -/
structure Begun (l : Loop) (d version : Nat) (config : Json) (servers : List String) : Prop where
  rollout : l.dispatch.rollouts[d]? = some (.new version config servers)
  agrees : l.dispatch.Agrees l.dispatch.pushes
  version : 0 < version

/-- What is so of a rollout after these steps: it is still the rollout that it was at first, what
its pushes have come to is what they have raised, and there is a reason for where each of them is. -/
structure Accounted (begun : Loop) (d version : Nat) (config : Json) (servers : List String)
    (steps : List Step) (l : Loop) (r : Rollout) : Prop where
  rollout : l.dispatch.rollouts[d]? = some r
  version : r.version = version
  config : r.config = config
  servers : r.pushes.map Prod.fst = servers
  raised : ∀ o, begun.raised d steps o = r.count o
  explained : ∀ (i : Nat) server p, r.pushes[i]? = some (server, p) →
    Explained begun steps l d i (r.load server) p

theorem Begun.accounted (h : Begun begun d version config servers) :
    Accounted begun d version config servers [] begun (.new version config servers) where
  rollout := h.rollout
  version := rfl
  config := rfl
  servers := Delivery.Rollout.servers_new version config servers
  raised o := (Delivery.Rollout.count_new version config servers o).symm
  explained i server p hp := by
    rw [Delivery.Rollout.new, List.getElem?_map, Option.map_eq_some_iff] at hp
    obtain ⟨server', -, he⟩ := hp
    cases he
    exact .waiting (by simp)

theorem Accounted.keep (h : Accounted begun d version config servers steps l r)
    (hrun : run? step? begun steps = some l) (hs : l.step? x = some m) (hof : x.isOf d = false)
    (hrollout : m.dispatch.rollouts[d]? = some r) :
    Accounted begun d version config servers (steps ++ [x]) m r where
  rollout := hrollout
  version := h.version
  config := h.config
  servers := h.servers
  raised o := by
    rw [raised_concat hrun hs, hof, if_neg Bool.false_ne_true, h.raised, Nat.add_zero]
  explained i server p hp := by
    refine (h.explained i server p hp).keep (fun move he => ?_) (versionsOf_subset hs _)
    simp [he, Step.isOf] at hof

theorem Accounted.push {move : Delivery.Move} {p p' : Push}
    (h : Accounted begun d version config servers steps l r)
    (hrun : run? step? begun steps = some l) (hagrees : l.dispatch.Agrees l.dispatch.pushes)
    (hpos : 0 < version) (hs : l.step? (.push ⟨d, i, move⟩) = some m)
    (hp : r.pushes[i]? = some (server, p))
    (hm : l.dispatch.toLedger.Takes (r.load server) p move m.dispatch.toLedger p')
    (hrollout : m.dispatch.rollouts[d]? = some (r.setPush i p')) :
    Accounted begun d version config servers (steps ++ [.push ⟨d, i, move⟩]) m
      (r.setPush i p') where
  rollout := hrollout
  version := h.version
  config := h.config
  servers := by rw [Delivery.Rollout.servers_setPush, h.servers]
  raised o := by
    rw [raised_concat hrun hs, h.raised, hm.count_tally, Nat.add_sub_cancel_left,
      Delivery.Rollout.count_setPush hp hm.isDone_eq_false]
    simp [Step.isOf]
  explained j server' q hq := by
    rw [Delivery.Rollout.getElem?_setPush hp] at hq
    split at hq
    · next hij =>
      cases hq
      subst hij
      have hpush := Delivery.Dispatch.push?_eq_some_iff.2 ⟨r, server, h.rollout, hp, rfl⟩
      exact (h.explained j server p hp).takes hrun hagrees hpush hm (Nat.lt_of_lt_of_eq hpos
        h.version.symm)
    · next hij =>
      refine (h.explained j server' q hq).keep (fun move' he => hij ?_) (versionsOf_subset hs _)
      cases he
      rfl

theorem Accounted.step (h : Accounted begun d version config servers steps l r)
    (hrun : run? step? begun steps = some l) (hagrees : l.dispatch.Agrees l.dispatch.pushes)
    (hpos : 0 < version) (hs : l.step? x = some m) :
    ∃ r', Accounted begun d version config servers (steps ++ [x]) m r' := by
  rcases dispatch_of_step? hs with ⟨⟨e, i, move⟩, rfl, htaken⟩ | ⟨hpush, hdispatch⟩
  · obtain ⟨q, server, p, p', hq, hp, hm, hrollouts⟩ :=
      Delivery.Dispatch.rollouts_of_step? htaken
    by_cases hd : e = d
    · subst hd
      obtain rfl : q = r := Option.some.inj (hq.symm.trans h.rollout)
      exact ⟨_, h.push hrun hagrees hpos hs hp hm (by simp [hrollouts, hq])⟩
    · refine ⟨r, h.keep hrun hs (by simpa [Step.isOf] using hd) ?_⟩
      rw [hrollouts, List.getElem?_modify_ne _ _ hd, h.rollout]
  · refine ⟨r, h.keep hrun hs ?_ ?_⟩
    · cases x with
      | push y => exact absurd rfl (hpush y)
      | generated | converted => rfl
    · rcases hdispatch with hsame | ⟨added, hadded⟩
      · rw [hsame, h.rollout]
      · obtain ⟨hlt, -⟩ := List.getElem?_eq_some_iff.1 h.rollout
        rw [hadded, Delivery.Dispatch.add, List.getElem?_append_left hlt, h.rollout]

theorem Begun.accounted_of_run (hb : Begun begun d version config servers)
    (h : run? step? begun steps = some l) :
    ∃ r, Accounted begun d version config servers steps l r :=
  run?_induction (P := fun steps l => ∃ r, Accounted begun d version config servers steps l r)
    ⟨_, hb.accounted⟩
    (fun hr ⟨_, ih⟩ hs => ih.step hr (agrees_of_run hb.agrees hr) hb.version hs) h

theorem Accounted.push? (h : Accounted begun d version config servers steps l r)
    (hi : servers[i]? = some server) : ∃ p, r.pushes[i]? = some (server, p) ∧
      l.dispatch.push? d i = some (⟨server, version, config⟩, p) := by
  rw [← h.servers, List.getElem?_map, Option.map_eq_some_iff] at hi
  obtain ⟨⟨server', p⟩, hp, rfl⟩ := hi
  refine ⟨p, hp, Delivery.Dispatch.push?_eq_some_iff.2 ⟨r, server', h.rollout, hp, ?_⟩⟩
  rw [Rollout.load, h.version, h.config]

theorem Accounted.raised_eq (h : Accounted begun d version config servers steps l r)
    (hdone : r.isDone = true) :
    begun.raised d steps .ok + begun.raised d steps .skipped + begun.raised d steps .failed =
      servers.length := by
  rw [h.raised, h.raised, h.raised, Delivery.Rollout.count_of_isDone hdone, ← h.servers,
    List.length_map]

/-- What a push of a rollout that is done has come to, and why. -/
theorem Accounted.answered (h : Accounted begun d version config servers steps l r)
    (hdone : r.isDone = true) (hi : servers[i]? = some server) :
    (∃ v ∈ l.dispatch.versionsOf server, version ≤ v) ∨
      .push ⟨d, i, .fail⟩ ∈ steps ∨
      ∃ u later, TakenAt begun steps (.push ⟨d, i, .ask⟩) u later ∧
        u.dispatch.IsElsewhere d i server := by
  obtain ⟨p, hp, -⟩ := h.push? hi
  have hp' := Delivery.Rollout.isDone_push hdone hp
  have hversion : (r.load server).version = version := h.version
  have hexplained := h.explained i server p hp
  cases hexplained with
  | waiting | admitted | loading | recorded | cancelled => cases hp'
  | ok acknowledged => exact .inl ⟨_, acknowledged, Nat.le_of_eq hversion.symm⟩
  | failed fails => exact .inr (.inl fails)
  | upToDate unsent acknowledged => exact .inl (hversion ▸ acknowledged)
  | inFlight unsent elsewhere => exact .inr (.inr elsewhere)

end

theorem Delivers.exists_begun {servers : List String} (hd : Delivers l x m servers)
    (h : run? step? {} trace = some l) : ∃ config, m.versions.config = some config ∧
      m.dispatch = l.dispatch.add (.new m.versions.number config servers) ∧
      Begun m l.next m.versions.number config servers := by
  obtain ⟨config, hconfig, hdispatch⟩ := hd.begins (versioned_of_run h)
  refine ⟨config, hconfig, hdispatch, ?_, ?_, hd.version⟩
  · rw [hdispatch, next, Delivery.Dispatch.add, List.getElem?_concat_length]
  · exact agrees_of_run Delivery.Ledger.agrees_nil (run?_concat.2 ⟨l, h, hd.step⟩)

/-! From a server that is found stale to its load. -/

theorem exists_loads_eq (hs : l.step? x = some m) :
    ∃ new, m.dispatch.loads = l.dispatch.loads ++ new := by
  rcases dispatch_of_step? hs with ⟨y, -, htaken⟩ | ⟨-, hsame | ⟨r, hadded⟩⟩
  · obtain ⟨r, server, p, p', -, -, hm, -⟩ := Delivery.Dispatch.rollouts_of_step? htaken
    exact ⟨_, hm.loads_eq⟩
  · exact ⟨[], by rw [hsame, List.append_nil]⟩
  · exact ⟨[], by rw [hadded, List.append_nil]; rfl⟩

variable {load : Load}

/-- An admitted push stays where it is until its server is told to load. -/
theorem step?_of_admitted (hp : l.dispatch.push? d i = some (load, .admitted))
    (hs : l.step? x = some m) : m.dispatch.push? d i = some (load, .admitted) ∨
      x = .push ⟨d, i, .send⟩ ∧ m.dispatch.loads = l.dispatch.loads ++ [load] := by
  rcases dispatch_of_step? hs with ⟨⟨e, j, move⟩, rfl, htaken⟩ | ⟨-, hsame | ⟨r, hadded⟩⟩
  · by_cases hplace : (e, j) = (d, i)
    · cases hplace
      obtain ⟨p', hm⟩ := Delivery.Dispatch.exists_takes hp htaken
      obtain rfl := hm.eq_send
      exact .inr ⟨rfl, hm.loads_eq⟩
    · exact .inl (by rw [Delivery.Dispatch.push?_of_step?_of_ne htaken hplace, hp])
  · exact .inl (by rw [hsame, hp])
  · exact .inl (by rw [hadded, Delivery.Dispatch.push?_add hp])

theorem sent_of_admitted (hp : l.dispatch.push? d i = some (load, .admitted))
    (h : run? step? l steps = some m) : ∃ new, m.dispatch.loads = l.dispatch.loads ++ new ∧
      (m.dispatch.push? d i = some (load, .admitted) ∨
        .push ⟨d, i, .send⟩ ∈ steps ∧ load ∈ new) := by
  refine run?_induction (P := fun steps m => ∃ new, m.dispatch.loads = l.dispatch.loads ++ new ∧
    (m.dispatch.push? d i = some (load, .admitted) ∨
      .push ⟨d, i, .send⟩ ∈ steps ∧ load ∈ new)) ⟨[], by simp, .inl hp⟩ ?_ h
  rintro steps r x m - ⟨new, hnew, hsent⟩ hs
  obtain ⟨more, hmore⟩ := exists_loads_eq hs
  refine ⟨new ++ more, by rw [hmore, hnew, List.append_assoc], ?_⟩
  rcases hsent with hstays | ⟨hmem, hload⟩
  · rcases step?_of_admitted hstays hs with hstays | ⟨rfl, hloads⟩
    · exact .inl hstays
    · rw [hmore] at hloads
      obtain rfl := List.append_cancel_left hloads
      exact .inr ⟨by simp, by simp⟩
  · exact .inr ⟨List.mem_append_left _ hmem, List.mem_append_left _ hload⟩

/-- Who finds a server stale is admitted, and next has it loaded. -/
theorem sent_of_ask {v : Loop} {p : Push} (hp : l.dispatch.push? d i = some (load, p))
    (hstale : l.dispatch.IsStale load.server load.version)
    (hask : l.step? (.push ⟨d, i, .ask⟩) = some v) (h : run? step? v steps = some m) :
    m.dispatch.push? d i = some (load, .admitted) ∨ .push ⟨d, i, .send⟩ ∈ steps ∧
      ∃ new, m.dispatch.loads = l.dispatch.loads ++ new ∧ load ∈ new := by
  have hadmitted : v.dispatch.push? d i = some (load, .admitted) := by
    cases takes_of_step? hask with
    | push taken => exact Delivery.Dispatch.admitted_of_ask hp hstale taken
  obtain ⟨asked, hasked⟩ := exists_loads_eq hask
  obtain ⟨new, hnew, hsent⟩ := sent_of_admitted hadmitted h
  refine hsent.imp_right fun ⟨hmem, hload⟩ => ⟨hmem, asked ++ new, ?_, ?_⟩
  · rw [hnew, hasked, List.append_assoc]
  · exact List.mem_append_right _ hload

/-- A cycle that has something to deliver begins a rollout to its servers, even if its Caddyfile has
not changed. When all pushes of the rollout are done, each server on the list has acknowledged the
version or a later one, or its load has failed, or another push to it was in flight; and the counts
are raised by as many as there are servers on the list. At any time, a load that fails leaves its
server stale, and a push that finds its server stale is admitted and next has it loaded. -/
theorem nobody_left_behind {servers : List String} (h : run? step? {} trace = some l)
    (hd : Delivers l x m servers) :
    ∃ config, m.versions.config = some config ∧
      m.dispatch = l.dispatch.add (.new m.versions.number config servers) ∧
      ∀ more t, run? step? m more = some t →
        (∀ r, t.dispatch.rollouts[l.next]? = some r → r.isDone = true →
          (∀ i server, servers[i]? = some server →
            (∃ v ∈ t.dispatch.versionsOf server, m.versions.number ≤ v) ∨
            .push ⟨l.next, i, .fail⟩ ∈ more ∨
            ∃ u later, TakenAt m more (.push ⟨l.next, i, .ask⟩) u later ∧
              u.dispatch.IsElsewhere l.next i server) ∧
          m.raised l.next more .ok + m.raised l.next more .skipped +
            m.raised l.next more .failed = servers.length) ∧
        (∀ i server u later, servers[i]? = some server →
          TakenAt m more (.push ⟨l.next, i, .fail⟩) u later →
          ∃ v, u.step? (.push ⟨l.next, i, .fail⟩) = some v ∧
            v.dispatch.IsStale server m.versions.number) ∧
        ∀ i server u later, servers[i]? = some server →
          TakenAt m more (.push ⟨l.next, i, .ask⟩) u later →
          u.dispatch.IsStale server m.versions.number →
          t.dispatch.push? l.next i = some (⟨server, m.versions.number, config⟩, .admitted) ∨
          .push ⟨l.next, i, .send⟩ ∈ later ∧
            ∃ new, t.dispatch.loads = u.dispatch.loads ++ new ∧
              ⟨server, m.versions.number, config⟩ ∈ new := by
  obtain ⟨config, hconfig, hdispatch, hb⟩ := hd.exists_begun h
  refine ⟨config, hconfig, hdispatch, fun more t hm => ⟨fun r hr hdone => ?_, ?_, ?_⟩⟩
  · obtain ⟨r', haccounted⟩ := hb.accounted_of_run hm
    obtain rfl := Option.some.inj (haccounted.rollout.symm.trans hr)
    exact ⟨fun i server hi => haccounted.answered hdone hi, haccounted.raised_eq hdone⟩
  · rintro i server u later hi ⟨earlier, rfl, hu⟩
    obtain ⟨r, hr⟩ := hb.accounted_of_run hu
    obtain ⟨p, -, hp⟩ := hr.push? hi
    obtain ⟨v, hv, -⟩ := TakenAt.exists_step? ⟨earlier, rfl, hu⟩ hm
    refine ⟨v, hv, ?_⟩
    cases takes_of_step? hv with
    | push taken =>
      exact Delivery.Dispatch.isStale_of_fail (agrees_of_run hb.agrees hu) hp taken
  · rintro i server u later hi ⟨earlier, rfl, hu⟩ hstale
    obtain ⟨r, hr⟩ := hb.accounted_of_run hu
    obtain ⟨p, -, hp⟩ := hr.push? hi
    obtain ⟨v, hv, hlater⟩ := TakenAt.exists_step? ⟨earlier, rfl, hu⟩ hm
    exact sent_of_ask hp hstale hv hlater

def failedOnce : List Step :=
  [.generated ⟨"x", ["a", "b"]⟩, .converted (.ok .null), .push ⟨0, 0, .ask⟩, .push ⟨0, 1, .ask⟩,
    .push ⟨0, 0, .send⟩, .push ⟨0, 1, .send⟩, .push ⟨0, 0, .fail⟩, .push ⟨0, 1, .record⟩,
    .push ⟨0, 1, .release⟩]

def afterFailedOnce : Loop := (run? step? {} failedOnce).getD {}

/-- The next cycle has the same Caddyfile, but finds the first server twice. -/
def sameAgain : Step := .generated ⟨"x", ["a", "b", "a"]⟩

def afterSameAgain : Loop := (afterFailedOnce.step? sameAgain).getD {}

def triedAgain : List Step :=
  [.push ⟨1, 0, .ask⟩, .push ⟨1, 1, .ask⟩, .push ⟨1, 2, .ask⟩, .push ⟨1, 0, .send⟩,
    .push ⟨1, 0, .record⟩, .push ⟨1, 0, .release⟩]

def afterTriedAgain : Loop := (run? step? afterSameAgain triedAgain).getD {}

theorem nobody_left_behind_triedAgain :
    run? step? {} failedOnce = some afterFailedOnce ∧
      Delivers afterFailedOnce sameAgain afterSameAgain ["a", "b", "a"] ∧
      run? step? afterSameAgain triedAgain = some afterTriedAgain ∧
      afterTriedAgain.dispatch.rollouts[1]? = some ⟨1, .null,
        [("a", .done .ok), ("b", .done .skipped), ("a", .done .skipped)]⟩ ∧
      afterSameAgain.raised 1 triedAgain .ok + afterSameAgain.raised 1 triedAgain .skipped +
        afterSameAgain.raised 1 triedAgain .failed = 3 ∧
      ∃ new, afterTriedAgain.dispatch.loads = afterSameAgain.dispatch.loads ++ new ∧
        ⟨"a", 1, .null⟩ ∈ new := by
  have hrun : run? step? {} failedOnce = some afterFailedOnce := rfl
  have hdelivers : Delivers afterFailedOnce sameAgain afterSameAgain ["a", "b", "a"] :=
    ⟨rfl, rfl, by decide⟩
  have hagain : run? step? afterSameAgain triedAgain = some afterTriedAgain := rfl
  obtain ⟨config, hconfig, -, hrollout⟩ := nobody_left_behind hrun hdelivers
  obtain rfl : config = .null := (Option.some.inj hconfig).symm
  obtain ⟨hdone, -, hloaded⟩ := hrollout triedAgain afterTriedAgain hagain
  have hended : afterTriedAgain.dispatch.push? 1 0 = some (⟨"a", 1, .null⟩, .done .ok) := rfl
  refine ⟨hrun, hdelivers, hagain, rfl, (hdone _ rfl rfl).2, ?_⟩
  refine ((hloaded 0 "a" afterSameAgain _ rfl ⟨[], rfl, rfl⟩ ⟨rfl, by decide⟩).resolve_left ?_).2
  intro hadmitted
  cases hended.symm.trans hadmitted

end ProxyFleet.Control.Loop
