import ProxyFleet.Proofs.Delivery.Registered

/-!
What pushes come to. A step concerns one push of one rollout and raises the count of an outcome
exactly if the push comes to it, so a rollout that is done has raised the counts by one for each of
its pushes.
-/

namespace ProxyFleet.Delivery

theorem Tally.count_add (t : Tally) (o o' : Outcome) :
    (t.add o).count o' = t.count o' + if o = o' then 1 else 0 := by
  cases o <;> cases o' <;> rfl

namespace Ledger

variable {l l' : Ledger} {load : Load} {p p' : Push} {m : Move}

theorem Takes.count_tally (hm : Takes l load p m l' p') (o : Outcome) :
    l'.tally.count o = l.tally.count o + if p' = .done o then 1 else 0 := by
  cases hm with
  | skip | release | fail => simp only [Tally.count_add, Push.done.injEq]
  | start | send | record | withdraw | cancel => rfl

theorem Takes.isDone_eq_false (hm : Takes l load p m l' p') : p.isDone = false := by
  cases hm <;> rfl

/-- Only a push that waits asks. -/
theorem Takes.eq_waiting (hm : Takes l load p .ask l' p') : p = .waiting := by
  cases hm <;> rfl

theorem Takes.eq_send (hm : Takes l load .admitted m l' p') : m = .send := by
  cases hm
  rfl

theorem Takes.eq_loading (hm : Takes l load p .send l' p') : p' = .loading := by
  cases hm
  rfl

theorem Takes.versionsOf_eq (hm : Takes l load p m l' p') (server : String) :
    l'.versionsOf server =
      l.versionsOf server ++ if m = .record ∧ load.server = server then [load.version] else [] := by
  rw [versionsOf, versionsOf, hm.acknowledged_eq, List.filter_append, List.map_append]
  by_cases hrecord : m = .record
  · by_cases hserver : load.server = server <;> simp [hrecord, hserver, Load.update]
  · simp [hrecord]

theorem Takes.of_fail (hm : Takes l load p .fail l' p') :
    p = .loading ∧ l'.registry = l.registry.drop load.update := by
  cases hm
  exact ⟨rfl, rfl⟩

end Ledger

namespace Rollout

variable {r : Rollout} {i j : Nat} {server : String} {p : Push}

def count (r : Rollout) (o : Outcome) : Nat := r.pushes.countP fun q => q.2 = .done o

theorem count_new (version : Nat) (config : Json) (servers : List String) (o : Outcome) :
    (new version config servers).count o = 0 := by
  refine List.countP_eq_zero.2 fun q hq => ?_
  obtain ⟨server, -, rfl⟩ := List.mem_map.1 hq
  simp

theorem count_setPush (h : r.pushes[i]? = some (server, p)) (hp : p.isDone = false) (p' : Push)
    (o : Outcome) : (r.setPush i p').count o = r.count o + if p' = .done o then 1 else 0 := by
  obtain ⟨before, after, hpushes, hmodify⟩ := modify_of_getElem? h
  have hset : (r.setPush i p').pushes = before ++ (server, p') :: after := hmodify _
  have hne : p ≠ .done o := fun he => by simp [he, Push.isDone] at hp
  simp only [count, hset, hpushes, List.countP_append, List.countP_cons, hne, decide_false,
    Bool.false_eq_true, if_false, decide_eq_true_eq]
  omega

theorem getElem?_setPush (h : r.pushes[i]? = some (server, p)) (p' : Push) :
    (r.setPush i p').pushes[j]? = if j = i then some (server, p') else r.pushes[j]? := by
  by_cases hij : j = i
  · simp [setPush, hij, h]
  · simp [setPush, hij, Ne.symm hij]

theorem servers_new (version : Nat) (config : Json) (servers : List String) :
    (new version config servers).pushes.map Prod.fst = servers := by
  simp [new, Function.comp_def]

theorem load_setPush (r : Rollout) (i : Nat) (p' : Push) : (r.setPush i p').load = r.load := rfl

theorem servers_setPush (r : Rollout) (i : Nat) (p' : Push) :
    (r.setPush i p').pushes.map Prod.fst = r.pushes.map Prod.fst := by
  refine List.ext_getElem? fun j => ?_
  rw [List.getElem?_map, List.getElem?_map, setPush, List.getElem?_modify]
  split <;> simp [Function.comp_def]

theorem isDone_push (h : r.isDone = true) (hp : r.pushes[i]? = some (server, p)) :
    p.isDone = true :=
  List.all_eq_true.1 h _ (List.mem_of_getElem? hp)

theorem count_of_isDone (h : r.isDone = true) :
    r.count .ok + r.count .skipped + r.count .failed = r.pushes.length := by
  obtain ⟨version, config, pushes⟩ := r
  unfold count
  induction pushes with
  | nil => rfl
  | cons q pushes ih =>
    obtain ⟨server, p⟩ := q
    rw [isDone, List.all_cons, Bool.and_eq_true] at h
    have hrest := ih h.2
    simp only at hrest
    simp only [List.countP_cons, List.length_cons]
    cases p with
    | done o => cases o <;> simp <;> omega
    | waiting | admitted | loading | recorded | cancelled => cases h.1

end Rollout

namespace Dispatch

variable {s t : Dispatch} {x : Step} {load : Load} {p : Push} {d i : Nat}

theorem push?_eq_some_iff : s.push? d i = some (load, p) ↔
    ∃ r server, s.rollouts[d]? = some r ∧ r.pushes[i]? = some (server, p) ∧
      r.load server = load := by
  simp only [push?, Option.bind_eq_bind, Option.bind_eq_some_iff, Option.some.injEq,
    Prod.mk.injEq, Prod.exists]
  constructor
  · rintro ⟨r, hr, server, q, hq, hload, rfl⟩
    exact ⟨r, server, hr, hq, hload⟩
  · rintro ⟨r, server, hr, hq, hload⟩
    exact ⟨r, hr, server, p, hq, hload, rfl⟩

/-- What a step finds and does, by the rollout and the push that it concerns. -/
theorem rollouts_of_step? (h : s.step? x = some t) : ∃ r server p p',
    s.rollouts[x.rollout]? = some r ∧ r.pushes[x.push]? = some (server, p) ∧
      s.toLedger.Takes (r.load server) p x.move t.toLedger p' ∧
      t.rollouts = s.rollouts.modify x.rollout fun r => r.setPush x.push p' := by
  simp only [step?, Option.bind_eq_bind, Option.bind_eq_some_iff] at h
  obtain ⟨⟨load, p⟩, hp, ⟨ledger, p'⟩, hm, he⟩ := h
  cases he
  obtain ⟨r, server, hr, hq, rfl⟩ := push?_eq_some_iff.1 hp
  exact ⟨r, server, p, p', hr, hq, Ledger.takes_of_advance hm, rfl⟩

theorem exists_push?_of_mem (h : (load, p) ∈ s.pushes) : ∃ d i, s.push? d i = some (load, p) := by
  obtain ⟨r, hr, hx⟩ := List.mem_flatMap.1 h
  obtain ⟨q, hq, he⟩ := List.mem_map.1 hx
  obtain ⟨d, hd⟩ := List.mem_iff_getElem?.1 hr
  obtain ⟨i, hi⟩ := List.mem_iff_getElem?.1 hq
  cases he
  exact ⟨d, i, push?_eq_some_iff.2 ⟨r, q.1, hd, hi, rfl⟩⟩

/-- A push to the server is registered that is not the one at this place. -/
def IsElsewhere (s : Dispatch) (d i : Nat) (server : String) : Prop :=
  ∃ e j load p, (e, j) ≠ (d, i) ∧ s.push? e j = some (load, p) ∧ load.server = server ∧
    p.isLive = true

/-- If a push that waits finds its server updating, another push to it is registered. -/
theorem isElsewhere_of_updating (h : s.Agrees s.pushes) (hp : s.push? d i = some (load, .waiting))
    {server : String} (busy : (s.registry.standing server).updating = true) :
    s.IsElsewhere d i server := by
  have hpos : 0 < s.liveFor server := by
    rw [(updating_iff h server).1 busy]
    exact Nat.one_pos
  obtain ⟨⟨load', p⟩, hmem, hlive⟩ := List.countP_pos_iff.1 hpos
  rw [Ledger.isLiveFor_mk, Bool.and_eq_true, decide_eq_true_eq] at hlive
  obtain ⟨e, j, hpush⟩ := exists_push?_of_mem hmem
  refine ⟨e, j, load', p, fun hsame => ?_, hpush, hlive.2, hlive.1⟩
  cases hsame
  rw [hp] at hpush
  cases hpush
  cases hlive.1

theorem mem_pushes (h : s.push? d i = some (load, p)) : (load, p) ∈ s.pushes := by
  obtain ⟨before, after, hpushes, -⟩ := pushes_setPush h
  rw [hpushes]
  exact List.mem_append_right _ List.mem_cons_self

theorem push?_setPush_of_ne {e j : Nat} (h : s.push? e j = some (load, p))
    (hne : (e, j) ≠ (d, i)) (p' : Push) : (s.setPush e j p').push? d i = s.push? d i := by
  obtain ⟨r, server, hr, hp, -⟩ := push?_eq_some_iff.1 h
  by_cases hd : e = d
  · subst hd
    have hi : i ≠ j := fun he => hne (by rw [he])
    have hkept : (r.setPush j p').pushes[i]? = r.pushes[i]? := by
      rw [Rollout.getElem?_setPush hp, if_neg hi]
    simp [push?, setPush, hr, hkept, Rollout.load_setPush]
  · rw [push?, push?, setPush, List.getElem?_modify_ne _ _ hd]

/-- A step leaves all pushes but one as they are. -/
theorem push?_of_step?_of_ne (h : s.step? x = some t) (hne : (x.rollout, x.push) ≠ (d, i)) :
    t.push? d i = s.push? d i := by
  simp only [step?, Option.bind_eq_bind, Option.bind_eq_some_iff] at h
  obtain ⟨⟨load, p⟩, hp, ⟨ledger, p'⟩, -, he⟩ := h
  cases he
  exact push?_setPush_of_ne (s := { s with toLedger := ledger }) hp hne p'

theorem eq_of_isLive {e j : Nat} {load' : Load} {p' : Push} (h : s.Agrees s.pushes)
    (hp : s.push? d i = some (load, p)) (hp' : s.push? e j = some (load', p'))
    (hlive : p.isLive = true) (hlive' : p'.isLive = true) (hserver : load'.server = load.server) :
    (d, i) = (e, j) := by
  by_contra hne
  obtain ⟨before, after, hpushes, hset⟩ := pushes_setPush hp
  -- The second push is still there when the first has been replaced.
  have hmem : (load', p') ∈ (s.setPush d i .waiting).pushes :=
    mem_pushes (by rw [push?_setPush_of_ne hp hne, hp'])
  have hother : (load', p') ∈ before ++ after := by
    rw [hset, List.mem_append, List.mem_cons] at hmem
    rcases hmem with hmem | heq | hmem
    · exact List.mem_append_left _ hmem
    · cases heq
      cases hlive'
    · exact List.mem_append_right _ hmem
  rw [hpushes] at h
  exact (h.perm List.perm_middle).ne_server hlive hother hlive' hserver

theorem push?_add (h : s.push? d i = some (load, p)) (r : Rollout) :
    (s.add r).push? d i = some (load, p) := by
  obtain ⟨r', server, hr, hp, hload⟩ := push?_eq_some_iff.1 h
  obtain ⟨hlt, -⟩ := List.getElem?_eq_some_iff.1 hr
  refine push?_eq_some_iff.2 ⟨r', server, ?_, hp, hload⟩
  rw [add, List.getElem?_append_left hlt, hr]

theorem push?_add_new (s : Dispatch) (version : Nat) (config : Json) {servers : List String}
    {server : String} (hi : servers[i]? = some server) :
    (s.add (.new version config servers)).push? s.rollouts.length i =
      some (⟨server, version, config⟩, .waiting) := by
  refine push?_eq_some_iff.2 ⟨.new version config servers, server, ?_, ?_, rfl⟩
  · rw [add, List.getElem?_concat_length]
  · rw [Rollout.new, List.getElem?_map, hi, Option.map_some]

/-- The server is idle, and all that it has acknowledged is older than the version. -/
def IsStale (s : Dispatch) (server : String) (version : Nat) : Prop :=
  (s.registry.standing server).updating = false ∧ (s.registry.standing server).version < version

theorem isStale_of_fail (h : s.Agrees s.pushes) (hp : s.push? d i = some (load, p))
    (ht : s.step? ⟨d, i, .fail⟩ = some t) : t.IsStale load.server load.version := by
  obtain ⟨p', hm⟩ := exists_takes hp ht
  obtain ⟨rfl, hregistry⟩ := hm.of_fail
  refine ⟨hm.updating_eq rfl (by simp), ?_⟩
  rw [hregistry, Registry.version_standing_drop]
  exact h.newer _ (mem_pushes hp) rfl

/-- A push that finds its server stale may start. -/
theorem admitted_of_ask (hp : s.push? d i = some (load, p))
    (hstale : s.IsStale load.server load.version) (ht : s.step? ⟨d, i, .ask⟩ = some t) :
    t.push? d i = some (load, .admitted) := by
  obtain ⟨q, hm⟩ := exists_takes hp ht
  obtain rfl := hm.eq_waiting
  obtain ⟨t', p', ht', hp', hadmitted, -⟩ := exists_step?_ask hp
  obtain rfl := Option.some.inj (ht'.symm.trans ht)
  have hstarted := (Registry.start_eq_started _ _ _ _).2 ⟨rfl, hstale⟩
  rw [hp', hadmitted.2 hstarted]

theorem push?_of_step? {m : Move} (hp : s.push? d i = some (load, p))
    (ht : s.step? ⟨d, i, m⟩ = some t) :
    ∃ p', s.toLedger.Takes load p m t.toLedger p' ∧ t.push? d i = some (load, p') := by
  simp only [step?, hp, Option.bind_eq_bind, Option.bind_some, Option.bind_eq_some_iff] at ht
  obtain ⟨⟨ledger, p'⟩, hm, he⟩ := ht
  cases he
  exact ⟨p', Ledger.takes_of_advance hm,
    push?_setPush (s := { s with toLedger := ledger }) hp p'⟩

theorem push?_of_run_of_ne {xs : List Step} (h : run? step? s xs = some t)
    (hne : ∀ x ∈ xs, (x.rollout, x.push) ≠ (d, i)) : t.push? d i = s.push? d i := by
  induction xs generalizing s with
  | nil =>
    obtain rfl := Option.some.inj h
    rfl
  | cons x xs ih =>
    rw [run?_cons, Option.bind_eq_some_iff] at h
    obtain ⟨r, hr, ht⟩ := h
    obtain ⟨hx, hxs⟩ := List.forall_mem_cons.1 hne
    rw [ih ht hxs, push?_of_step?_of_ne hr hx]

/-- A push that finds its server stale can have it loaded. -/
theorem exists_run?_load (hp : s.push? d i = some (load, .waiting))
    (hstale : s.IsStale load.server load.version) :
    ∃ t, run? step? s [⟨d, i, .ask⟩, ⟨d, i, .send⟩] = some t ∧
      t.push? d i = some (load, .loading) := by
  obtain ⟨r, hr⟩ := Option.isSome_iff_exists.1 ((isSome_step? hp .ask).2 (by decide))
  have hadmitted := admitted_of_ask hp hstale hr
  obtain ⟨t, ht⟩ := Option.isSome_iff_exists.1 ((isSome_step? hadmitted .send).2 (by decide))
  obtain ⟨p', hm, hpush⟩ := push?_of_step? hadmitted ht
  obtain rfl := hm.eq_loading
  exact ⟨t, by rw [run?_cons, hr, Option.bind_some, run?_singleton, ht], hpush⟩

/-- After a load that has failed, another push can have the same server loaded. -/
theorem exists_run?_reload {j : Nat} (h : s.Agrees s.pushes)
    (hi : s.push? d i = some (load, .waiting)) (hj : s.push? d j = some (load, .waiting))
    (hne : i ≠ j) (hstale : s.IsStale load.server load.version) :
    ∃ t, run? step? s ([⟨d, i, .ask⟩, ⟨d, i, .send⟩] ++ [⟨d, i, .fail⟩] ++
      [⟨d, j, .ask⟩, ⟨d, j, .send⟩]) = some t := by
  obtain ⟨r, hr, hloading⟩ := exists_run?_load hi hstale
  obtain ⟨u, hu⟩ := Option.isSome_iff_exists.1 ((isSome_step? hloading .fail).2 (by decide))
  have hagrees : r.Agrees r.pushes :=
    run?_induction (P := fun _ r => r.Agrees r.pushes) h (fun _ ih hs => agrees_step? ih hs) hr
  have hfailed := run?_concat.2 ⟨r, hr, hu⟩
  have hwaits : u.push? d j = some (load, .waiting) := by
    rw [push?_of_run_of_ne hfailed (by simp [hne]), hj]
  obtain ⟨t, ht, -⟩ := exists_run?_load hwaits (isStale_of_fail hagrees hloading hu)
  exact ⟨t, by rw [run?_append, hfailed, Option.bind_some, ht]⟩

end Dispatch

end ProxyFleet.Delivery
