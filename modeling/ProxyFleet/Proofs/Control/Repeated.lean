import Mathlib.Data.List.Nodup
import ProxyFleet.Proofs.Control.Delivered

/-!
How often a delivery has a server loaded. Each place on the list of servers is served once; but what
keeps one server on two places from being loaded twice is only that it is updating or up to date
when the second push asks, and after a load that has failed it is neither.
-/

namespace ProxyFleet.Control.Loop

open Delivery (Push Rollout Load Move)

variable {l m t u v begun : Loop} {x : Step} {trace steps : List Step} {d i j : Nat}

/-- What the rollout's pushes tell servers to load, in order. -/
def loadsOf (d : Nat) (l : Loop) (steps : List Step) : List Load :=
  (l.transitions d steps).flatMap fun x => x.2.dispatch.loads.drop x.1.dispatch.loads.length

/-- No delivery to these servers has one of them loaded twice. -/
def LoadsOnce (servers : List String) : Prop :=
  ∀ trace l x m more t, run? step? {} trace = some l → Delivers l x m servers →
    run? step? m more = some t → ((m.loadsOf l.next more).map (·.server)).Nodup

theorem loadsOf_concat_of_ne (h : run? step? l steps = some m) (hs : m.step? x = some t)
    (hof : x.isOf d = false) : l.loadsOf d (steps ++ [x]) = l.loadsOf d steps := by
  simp [loadsOf, transitions_concat h hs, hof]

theorem loadsOf_concat {load : Load} {p : Push} {move : Move} (h : run? step? l steps = some m)
    (hp : m.dispatch.push? d i = some (load, p)) (hs : m.step? (.push ⟨d, i, move⟩) = some t) :
    l.loadsOf d (steps ++ [.push ⟨d, i, move⟩]) =
      l.loadsOf d steps ++ if move = .send then [load] else [] := by
  cases takes_of_step? hs with
  | @push _ dispatch taken =>
    obtain ⟨p', hm⟩ := Delivery.Dispatch.exists_takes hp taken
    simp [loadsOf, transitions_concat h hs, Step.isOf, hm.loads_eq]

def placesOf (d : Nat) (steps : List Step) : List Nat :=
  steps.filterMap fun
    | .push ⟨e, i, .send⟩ => if e = d then some i else none
    | _ => none

theorem mem_placesOf : i ∈ placesOf d steps ↔ .push ⟨d, i, .send⟩ ∈ steps := by
  rw [placesOf, List.mem_filterMap]
  constructor
  · rintro ⟨x, hx, he⟩
    split at he
    · split at he
      · next hd =>
        cases he
        exact hd ▸ hx
      · cases he
    · cases he
  · intro h
    exact ⟨_, h, by simp⟩

theorem placesOf_concat (steps : List Step) (x : Step) :
    placesOf d (steps ++ [x]) = placesOf d steps ++ placesOf d [x] := List.filterMap_append

theorem placesOf_of_not_isOf (hof : x.isOf d = false) : placesOf d [x] = [] := by
  cases x with
  | generated | converted => rfl
  | push y =>
    obtain ⟨e, i, move⟩ := y
    have hne : e ≠ d := by simpa [Step.isOf] using hof
    cases move <;> simp [placesOf, hne]

theorem placesOf_push (d i : Nat) (move : Move) :
    placesOf d [.push ⟨d, i, move⟩] = if move = .send then [i] else [] := by
  cases move <;> simp [placesOf]

section

variable {version : Nat} {config : Json} {servers : List String} {r : Rollout} {move : Move}

/-- The push that takes a step has a place on the list. -/
theorem Accounted.of_step? (ha : Accounted begun d version config servers steps l r)
    (hs : l.step? (.push ⟨d, i, move⟩) = some m) : ∃ server p p',
      servers[i]? = some server ∧ r.pushes[i]? = some (server, p) ∧
      l.dispatch.toLedger.Takes (r.load server) p move m.dispatch.toLedger p' := by
  cases takes_of_step? hs with
  | @push _ dispatch taken =>
    obtain ⟨q, server, p, p', hq, hp, hm, -⟩ := Delivery.Dispatch.rollouts_of_step? taken
    obtain rfl : q = r := Option.some.inj (hq.symm.trans ha.rollout)
    refine ⟨server, p, p', ?_, hp, hm⟩
    rw [← ha.servers, List.getElem?_map, hp, Option.map_some]

/-- A place whose server is about to be told to load has not been served. -/
theorem Accounted.not_mem_placesOf (ha : Accounted begun d version config servers steps l r)
    (hs : l.step? (.push ⟨d, i, .send⟩) = some m) : i ∉ placesOf d steps := by
  obtain ⟨server, p, p', -, hp, hm⟩ := ha.of_step? hs
  obtain rfl := hm.eq_admitted
  have hexplained := ha.explained i server _ hp
  cases hexplained with
  | admitted unsent => exact mt mem_placesOf.1 unsent

/-- Each place is served once at most, and with its own server. -/
structure Served (begun : Loop) (d : Nat) (servers : List String) (steps : List Step) : Prop where
  once : (placesOf d steps).Nodup
  servers : ((begun.loadsOf d steps).map (·.server)).map some =
    (placesOf d steps).map fun i => servers[i]?

theorem Served.step (h : Served begun d servers steps)
    (ha : Accounted begun d version config servers steps l r)
    (hrun : run? step? begun steps = some l) (hs : l.step? x = some m) :
    Served begun d servers (steps ++ [x]) := by
  cases hof : x.isOf d with
  | false =>
    constructor
    · rw [placesOf_concat, placesOf_of_not_isOf hof, List.append_nil]
      exact h.once
    · rw [loadsOf_concat_of_ne hrun hs hof, placesOf_concat, placesOf_of_not_isOf hof,
        List.append_nil]
      exact h.servers
  | true =>
    obtain ⟨i, move, rfl⟩ : ∃ i move, x = .push ⟨d, i, move⟩ := by
      cases x with
      | generated | converted => cases hof
      | push y =>
        obtain rfl : y.rollout = d := by simpa [Step.isOf] using hof
        exact ⟨y.push, y.move, rfl⟩
    obtain ⟨server, p, p', hi, hp, -⟩ := ha.of_step? hs
    have hpush : l.dispatch.push? d i = some (r.load server, p) :=
      Delivery.Dispatch.push?_eq_some_iff.2 ⟨r, server, ha.rollout, hp, rfl⟩
    constructor
    · rw [placesOf_concat, placesOf_push]
      split
      · next hsend =>
        subst hsend
        rw [← List.concat_eq_append]
        exact List.Nodup.concat (ha.not_mem_placesOf hs) h.once
      · rw [List.append_nil]
        exact h.once
    · rw [loadsOf_concat hrun hpush hs, placesOf_concat, placesOf_push, List.map_append,
        List.map_append, List.map_append, h.servers]
      split
      · rw [List.map_singleton, List.map_singleton, List.map_singleton, hi]
        rfl
      · rfl

theorem Begun.served_of_run (hb : Begun begun d version config servers)
    (h : run? step? begun steps = some l) : Served begun d servers steps := by
  refine run?_induction (P := fun steps _ => Served begun d servers steps) ⟨.nil, rfl⟩ ?_ h
  intro steps r x m hr ih hs
  obtain ⟨r', ha⟩ := hb.accounted_of_run hr
  exact ih.step ha hr hs

theorem Served.lt_length (h : Served begun d servers steps) (hi : i ∈ placesOf d steps) :
    i < servers.length := by
  have hmem : servers[i]? ∈ ((begun.loadsOf d steps).map (·.server)).map some := by
    rw [h.servers]
    exact List.mem_map_of_mem hi
  obtain ⟨server, -, hserver⟩ := List.mem_map.1 hmem
  exact (List.getElem?_eq_some_iff.1 hserver.symm).1

theorem Served.nodup (h : Served begun d servers steps)
    (hdistinct : ∀ i ∈ placesOf d steps, ∀ j ∈ placesOf d steps,
      servers[i]? = servers[j]? → i = j) :
    ((begun.loadsOf d steps).map (·.server)).Nodup := by
  have hplaces : ((placesOf d steps).map fun i => servers[i]?).Nodup :=
    List.Nodup.map_on hdistinct h.once
  rw [← h.servers] at hplaces
  exact List.Nodup.of_map some hplaces

/-- A server is told to load a second time only after its first load has failed or was given up: a
load that goes on or has succeeded keeps the second push from being admitted. -/
theorem Accounted.failed_before (ha : Accounted begun d version config servers steps l r)
    (hagrees : l.dispatch.Agrees l.dispatch.pushes) (hne : i ≠ j)
    (hserver : servers[i]? = servers[j]?) (hi : i ∈ placesOf d steps)
    (hs : l.step? (.push ⟨d, j, .send⟩) = some m) :
    .push ⟨d, i, .fail⟩ ∈ steps ∨ .push ⟨d, i, .cancel⟩ ∈ steps := by
  obtain ⟨server, q, q', hj, hq, hm⟩ := ha.of_step? hs
  obtain rfl := hm.eq_admitted
  obtain ⟨p, hp, hpush⟩ := ha.push? (hserver.trans hj)
  have hadmitted : l.dispatch.push? d j = some (r.load server, .admitted) :=
    Delivery.Dispatch.push?_eq_some_iff.2 ⟨r, server, ha.rollout, hq, rfl⟩
  have hsent := mem_placesOf.1 hi
  have hidle : p.isLive ≠ true := by
    intro hlive
    have hsame := Delivery.Dispatch.eq_of_isLive hagrees hadmitted hpush rfl hlive rfl
    exact hne (Prod.mk.inj hsame).2.symm
  have hexplained := ha.explained i server p hp
  cases hexplained with
  | waiting unsent | admitted unsent | upToDate unsent | inFlight unsent =>
    exact absurd hsent unsent
  | loading | recorded => exact absurd rfl hidle
  | ok acknowledged =>
    -- The second push would not be newer than what its server has acknowledged.
    have hnewer := hagrees.newer _ (Delivery.Dispatch.mem_pushes hadmitted) rfl
    exact absurd (hagrees.le_version acknowledged) (Nat.not_le.2 hnewer)
  | failed fails => exact .inl fails
  | cancelled cancels => exact .inr cancels

def AllLoad (d : Nat) (steps : List Step) : Prop :=
  ∀ i, .push ⟨d, i, .fail⟩ ∉ steps ∧ .push ⟨d, i, .cancel⟩ ∉ steps

theorem AllLoad.of_concat (h : AllLoad d (steps ++ [x])) : AllLoad d steps := fun i =>
  (h i).imp (mt (List.mem_append_left _)) (mt (List.mem_append_left _))

/-- As long as all load, no two of the places that are served hold the same server. -/
theorem Begun.distinct_of_run (hb : Begun begun d version config servers)
    (h : run? step? begun steps = some l) : AllLoad d steps →
      ∀ i ∈ placesOf d steps, ∀ j ∈ placesOf d steps, servers[i]? = servers[j]? → i = j := by
  refine run?_induction (P := fun steps _ => AllLoad d steps →
    ∀ i ∈ placesOf d steps, ∀ j ∈ placesOf d steps, servers[i]? = servers[j]? → i = j)
    (fun _ => nofun) ?_ h
  intro steps r x m hr ih hs hall i hi j hj hij
  obtain ⟨r', ha⟩ := hb.accounted_of_run hr
  -- A place that is served now holds another server than one that has been served.
  have hnew : ∀ old new, old ∈ placesOf d steps → x = .push ⟨d, new, .send⟩ →
      servers[old]? = servers[new]? → old = new := by
    intro old new hold hx hsame
    subst hx
    by_contra hne
    rcases ha.failed_before (agrees_of_run hb.agrees hr) hne hsame hold hs with hfail | hcancel
    · exact (hall.of_concat old).1 hfail
    · exact (hall.of_concat old).2 hcancel
  rw [mem_placesOf, List.mem_append, List.mem_singleton, ← mem_placesOf] at hi hj
  rcases hi with hi | hi <;> rcases hj with hj | hj
  · exact ih hall.of_concat i hi j hj hij
  · exact hnew i j hi hj.symm hij
  · exact (hnew j i hj hi.symm hij.symm).symm
  · rw [← hi] at hj
    cases hj
    rfl

end

theorem run?_push (ys : List Delivery.Step) : run? step? l (ys.map .push) =
    (run? Delivery.Dispatch.step? l.dispatch ys).map fun dispatch => { l with dispatch } := by
  induction ys generalizing l with
  | nil => rfl
  | cons y ys ih =>
    rw [List.map_cons, run?_cons, run?_cons, step?]
    cases l.dispatch.step? y with
    | none => rfl
    | some dispatch => exact ih

/-- There can be a first cycle to any servers. -/
theorem exists_delivers (servers : List String) : ∃ trace l x m,
    run? step? {} trace = some l ∧ Delivers l x m servers ∧ l.dispatch = {} := by
  have hstep : converted? { versions := { last := some "" }, converting := some ⟨"", servers⟩ }
      (.ok .null) = _ := converted?_ok rfl
  exact ⟨[.generated ⟨"", servers⟩], _, .converted (.ok .null), _, rfl, ⟨hstep, rfl, by simp⟩, rfl⟩

/-- The first load of a server that is on two places fails before the second push asks. -/
theorem not_loadsOnce {servers : List String} {server : String} (hne : i ≠ j)
    (hi : servers[i]? = some server) (hj : servers[j]? = some server) : ¬ LoadsOnce servers := by
  intro honce
  obtain ⟨trace, l, x, m, h, hd, hempty⟩ := exists_delivers servers
  obtain ⟨config, -, hdispatch, hb⟩ := hd.exists_begun h
  have hpush {k : Nat} (hk : servers[k]? = some server) : m.dispatch.push? l.next k =
      some (⟨server, m.versions.number, config⟩, .waiting) := by
    rw [hdispatch]
    exact Delivery.Dispatch.push?_add_new _ _ _ hk
  have hstale : m.dispatch.IsStale server m.versions.number := by
    rw [hdispatch, hempty]
    exact ⟨rfl, hd.version⟩
  obtain ⟨dispatch, hrun⟩ :=
    Delivery.Dispatch.exists_run?_reload hb.agrees (hpush hi) (hpush hj) hne hstale
  have hm := run?_push (l := m) ([⟨l.next, i, .ask⟩, ⟨l.next, i, .send⟩] ++ [⟨l.next, i, .fail⟩] ++
    [⟨l.next, j, .ask⟩, ⟨l.next, j, .send⟩])
  rw [hrun, Option.map_some] at hm
  have hnodup := (honce trace l x m _ _ h hd hm).map fun _ _ => Option.some.inj
  rw [(hb.served_of_run hm).servers] at hnodup
  simp [placesOf, hi, hj] at hnodup

/-- That no server is told to load twice by one delivery holds of exactly those lists of servers
that have no server twice. With any list it holds as long as none of the delivery's loads fails or
is given up. -/
theorem loads_once_iff_nodup (servers : List String) :
    (LoadsOnce servers ↔ servers.Nodup) ∧
    ∀ trace l x m more t, run? step? {} trace = some l → Delivers l x m servers →
      run? step? m more = some t → AllLoad l.next more →
      ((m.loadsOf l.next more).map (·.server)).Nodup := by
  refine ⟨⟨fun honce => ?_, fun hnodup trace l x m more t h hd hm => ?_⟩, ?_⟩
  · by_contra hrepeated
    rw [List.nodup_iff_injective_getElem] at hrepeated
    simp only [Function.Injective, not_forall] at hrepeated
    obtain ⟨i, j, hsame, hne⟩ := hrepeated
    refine not_loadsOnce (mt Fin.ext hne) (List.getElem?_eq_getElem i.2) ?_ honce
    rw [List.getElem?_eq_getElem j.2, hsame]
  · obtain ⟨config, -, -, hb⟩ := hd.exists_begun h
    have hserved := hb.served_of_run hm
    exact hserved.nodup fun i hi j hj hij =>
      (List.getElem?_inj (hserved.lt_length hi) hnodup).1 hij
  · intro trace l x m more t h hd hm hall
    obtain ⟨config, -, -, hb⟩ := hd.exists_begun h
    have hserved := hb.served_of_run hm
    exact hserved.nodup (hb.distinct_of_run hm hall)

def foundTwice : Step := .generated ⟨"x", ["a", "a"]⟩

def failedFirst : List Step :=
  [.push ⟨0, 0, .ask⟩, .push ⟨0, 0, .send⟩, .push ⟨0, 0, .fail⟩, .push ⟨0, 1, .ask⟩,
    .push ⟨0, 1, .send⟩]

theorem not_loadsOnce_foundTwice : ¬ ∀ servers, LoadsOnce servers := by
  intro honce
  have hdelivers : Delivers ((run? step? {} [foundTwice]).getD {}) (.converted (.ok .null))
      ((run? step? {} [foundTwice, .converted (.ok .null)]).getD {}) ["a", "a"] :=
    ⟨rfl, rfl, by decide⟩
  have hloads := honce ["a", "a"] [foundTwice] _ _ _ failedFirst _ rfl hdelivers rfl
  revert hloads
  decide

end ProxyFleet.Control.Loop
