import Mathlib.Data.List.Basic
import ProxyFleet.Delivery.Dispatch

/-!
What pushes share, kept right by every move of one of them: a server is marked as updating exactly
while one push to it is registered, and never more than one is; its version is the newest that it has
acknowledged, and a push that is still to be recorded has a newer one.
-/

namespace ProxyFleet.Delivery

def isLiveFor (server : String) (x : Load × Push) : Bool := x.2.isLive && x.1.server = server

def Push.moves : Push → List Move
  | .waiting => [.ask, .cancel]
  | .admitted => [.send]
  | .loading => [.record, .fail, .cancel]
  | .recorded => [.release]
  | .done _ | .cancelled => []

namespace Ledger

variable {l l' : Ledger} {load : Load} {p p' : Push} {m : Move}

inductive Takes (l : Ledger) (load : Load) : Push → Move → Ledger → Push → Prop
  | start (idle : (l.registry.standing load.server).updating = false)
    (newer : (l.registry.standing load.server).version < load.version) :
    Takes l load .waiting .ask { l with
      registry := l.registry.set load.server
        { l.registry.standing load.server with updating := true } } .admitted
  | skip (unfit : (l.registry.standing load.server).updating = true ∨
      load.version ≤ (l.registry.standing load.server).version) :
    Takes l load .waiting .ask { l with
      registry := l.registry.set load.server (l.registry.standing load.server),
      tally := l.tally.add .skipped } (.done .skipped)
  | send : Takes l load .admitted .send { l with loads := l.loads ++ [load] } .loading
  | record : Takes l load .loading .record { l with
      registry := l.registry.record load.update,
      acknowledged := l.acknowledged ++ [load.update] } .recorded
  | release : Takes l load .recorded .release { l with
      registry := l.registry.drop load.update, tally := l.tally.add .ok } (.done .ok)
  | fail : Takes l load .loading .fail { l with
      registry := l.registry.drop load.update, tally := l.tally.add .failed } (.done .failed)
  | withdraw : Takes l load .waiting .cancel l .cancelled
  | cancel : Takes l load .loading .cancel
      { l with registry := l.registry.drop load.update } .cancelled

theorem takes_of_advance (h : l.advance load p m = some (l', p')) : Takes l load p m l' p' := by
  cases p <;> cases m <;> simp only [advance, reduceCtorEq] at h
  case waiting.ask =>
    rw [Registry.start] at h
    by_cases hbusy : (l.registry.standing load.server).updating = true
    · simp only [hbusy, if_true] at h
      cases h
      exact .skip (.inl hbusy)
    · by_cases hold : load.version ≤ (l.registry.standing load.server).version
      · simp only [hbusy, hold, if_true] at h
        cases h
        exact .skip (.inr hold)
      · simp only [hbusy, hold] at h
        cases h
        exact .start (Bool.eq_false_iff.2 hbusy) (Nat.lt_of_not_le hold)
  all_goals
    cases h
    constructor

/-- The versions that a server has acknowledged, in order. -/
def versionsOf (l : Ledger) (server : String) : List Nat :=
  (l.acknowledged.filter (·.server = server)).map (·.version)

structure Agrees (l : Ledger) (pushes : List (Load × Push)) : Prop where
  updating : ∀ server, pushes.countP (isLiveFor server) =
    if (l.registry.standing server).updating then 1 else 0
  version : ∀ server, (l.registry.standing server).version = (l.versionsOf server).max?.getD 0
  increasing : ∀ server, (l.versionsOf server).Pairwise (· < ·)
  /-- What is to be recorded is newer than what has been. -/
  newer : ∀ x ∈ pushes, x.2.isPending = true →
    (l.registry.standing x.1.server).version < x.1.version

variable {pushes others : List (Load × Push)} {server : String}

theorem agrees_nil : Agrees {} [] :=
  ⟨fun _ => rfl, fun _ => rfl, fun _ => .nil, nofun⟩

theorem Agrees.perm {pushes' : List (Load × Push)} (h : l.Agrees pushes)
    (hp : pushes.Perm pushes') : l.Agrees pushes' where
  updating server := by rw [← hp.countP_eq, h.updating]
  version := h.version
  increasing := h.increasing
  newer x hx := h.newer x (hp.mem_iff.2 hx)

theorem isLiveFor_mk (server : String) (load : Load) (p : Push) :
    isLiveFor server (load, p) = (p.isLive && load.server = server) := rfl

theorem Agrees.ne_server (h : l.Agrees ((load, p) :: others)) (hp : p.isLive = true)
    {x : Load × Push} (hx : x ∈ others) (hlive : x.2.isLive = true) : x.1.server ≠ load.server := by
  intro he
  have hcount := h.updating load.server
  have hpos : 0 < others.countP (isLiveFor load.server) :=
    List.countP_pos_iff.2 ⟨x, hx, by simp [isLiveFor, hlive, he]⟩
  rw [List.countP_cons, isLiveFor_mk, hp] at hcount
  simp only [Bool.true_and, decide_true, if_true] at hcount
  split at hcount <;> omega

/-- A move that changes no standing keeps the agreement. -/
theorem Agrees.keep (h : l.Agrees ((load, p) :: others))
    (hstanding : ∀ server, l'.registry.standing server = l.registry.standing server)
    (hacknowledged : l'.acknowledged = l.acknowledged) (hlive : p'.isLive = p.isLive)
    (hpending : p'.isPending = true → p.isPending = true) : l'.Agrees ((load, p') :: others) where
  updating server := by
    have hcount := h.updating server
    rw [List.countP_cons, isLiveFor_mk] at hcount ⊢
    rw [hlive, hstanding, hcount]
  version server := by rw [hstanding, h.version, versionsOf, versionsOf, hacknowledged]
  increasing server := by
    rw [versionsOf, hacknowledged]
    exact h.increasing server
  newer x hx hp := by
    rw [hstanding]
    rcases List.mem_cons.1 hx with rfl | hx
    · exact h.newer (load, p) List.mem_cons_self (hpending hp)
    · exact h.newer x (List.mem_cons_of_mem _ hx) hp

theorem Agrees.start (h : l.Agrees ((load, p) :: others)) (hp : p.isLive = false)
    (idle : (l.registry.standing load.server).updating = false)
    (newer : (l.registry.standing load.server).version < load.version) :
    Agrees { l with
      registry := l.registry.set load.server
        { l.registry.standing load.server with updating := true } } ((load, .admitted) :: others) := by
  refine ⟨fun server => ?_, fun server => ?_, h.increasing, fun x hx hpending => ?_⟩
  · have hcount := h.updating server
    rw [List.countP_cons, isLiveFor_mk, hp, Bool.false_and] at hcount
    rw [List.countP_cons, isLiveFor_mk, Registry.standing_set]
    by_cases hs : server = load.server
    · subst hs
      simpa [Push.isLive, idle] using hcount
    · simpa [Push.isLive, hs, Ne.symm hs] using hcount
  · rw [Registry.version_standing_set_updating]
    exact h.version server
  · rw [Registry.version_standing_set_updating]
    rcases List.mem_cons.1 hx with rfl | hx
    · exact newer
    · exact h.newer x (List.mem_cons_of_mem _ hx) hpending

theorem Agrees.drop (h : l.Agrees ((load, p) :: others)) (hp : p.isLive = true)
    (hregistry : l'.registry = l.registry.drop load.update)
    (hacknowledged : l'.acknowledged = l.acknowledged) (hp' : p'.isLive = false) :
    l'.Agrees ((load, p') :: others) := by
  have hversion : ∀ server,
      (l'.registry.standing server).version = (l.registry.standing server).version := by
    intro server
    rw [hregistry, Registry.version_standing_drop]
  refine ⟨fun server => ?_, fun server => ?_, fun server => ?_, fun x hx hpending => ?_⟩
  · have hcount := h.updating server
    rw [List.countP_cons, isLiveFor_mk, hp, Bool.true_and] at hcount
    rw [List.countP_cons, isLiveFor_mk, hp', Bool.false_and, hregistry, Registry.standing_drop]
    by_cases hs : server = load.server
    · subst hs
      simp only [decide_true, if_true] at hcount
      simp only [Load.update, if_true, Bool.false_eq_true, if_false]
      split at hcount <;> omega
    · simpa [Load.update, hs, Ne.symm hs] using hcount
  · rw [hversion, h.version, versionsOf, versionsOf, hacknowledged]
  · rw [versionsOf, hacknowledged]
    exact h.increasing server
  · rw [hversion]
    rcases List.mem_cons.1 hx with rfl | hx
    · rw [Push.isLive_of_isPending hpending] at hp'
      cases hp'
    · exact h.newer x (List.mem_cons_of_mem _ hx) hpending

theorem versionsOf_record (l : Ledger) (u : Update) (server : String) :
    versionsOf { l with registry := l.registry.record u, acknowledged := l.acknowledged ++ [u] }
      server = l.versionsOf server ++ if u.server = server then [u.version] else [] := by
  rw [versionsOf, versionsOf, List.filter_append, List.map_append]
  by_cases hs : u.server = server <;> simp [hs]

theorem le_getD_max? {ns : List Nat} {n : Nat} (h : n ∈ ns) : n ≤ ns.max?.getD 0 := by
  cases hmax : ns.max? with
  | none =>
    rw [List.max?_eq_none_iff] at hmax
    subst hmax
    cases h
  | some m => exact (List.max?_eq_some_iff.1 hmax).2 n h

/-- A server has acknowledged no version that is newer than the one that is recorded of it. -/
theorem Agrees.le_version (h : l.Agrees pushes) {n : Nat} (hn : n ∈ l.versionsOf server) :
    n ≤ (l.registry.standing server).version :=
  h.version server ▸ le_getD_max? hn

theorem Agrees.record (h : l.Agrees ((load, .loading) :: others)) :
    Agrees { l with
      registry := l.registry.record load.update,
      acknowledged := l.acknowledged ++ [load.update] } ((load, .recorded) :: others) := by
  have hnewer : (l.registry.standing load.server).version < load.version :=
    h.newer (load, .loading) List.mem_cons_self rfl
  have hlt : ∀ n ∈ l.versionsOf load.server, n < load.version := fun n hn =>
    Nat.lt_of_le_of_lt (h.le_version hn) hnewer
  refine ⟨fun server => ?_, fun server => ?_, fun server => ?_, fun x hx hpending => ?_⟩
  · rw [Registry.updating_standing_record]
    exact h.updating server
  · rw [versionsOf_record, Registry.standing_record]
    by_cases hs : server = load.server
    · subst hs
      have hmax : (l.versionsOf load.server ++ [load.version]).max? = some load.version := by
        refine List.max?_eq_some_iff.2 ⟨by simp, fun n hn => ?_⟩
        rcases List.mem_append.1 hn with hn | hn
        · exact Nat.le_of_lt (hlt n hn)
        · exact Nat.le_of_eq (List.mem_singleton.1 hn)
      simp only [Load.update, if_true, hmax, Option.getD_some]
      omega
    · simpa [Load.update, hs, Ne.symm hs] using h.version server
  · rw [versionsOf_record]
    by_cases hs : load.server = server
    · subst hs
      rw [Load.update, if_pos rfl]
      refine List.pairwise_append.2 ⟨h.increasing _, List.pairwise_singleton _ _, fun n hn m hm => ?_⟩
      rw [List.mem_singleton.1 hm]
      exact hlt n hn
    · rw [Load.update, if_neg hs, List.append_nil]
      exact h.increasing server
  · rcases List.mem_cons.1 hx with rfl | hx
    · cases hpending
    · have hne : x.1.server ≠ load.update.server :=
        h.ne_server rfl hx (Push.isLive_of_isPending hpending)
      rw [Registry.standing_record, if_neg hne]
      exact h.newer x (List.mem_cons_of_mem _ hx) hpending

theorem Agrees.takes (hm : Takes l load p m l' p') (h : l.Agrees ((load, p) :: others)) :
    l'.Agrees ((load, p') :: others) := by
  cases hm with
  | start idle newer => exact h.start rfl idle newer
  | skip => exact h.keep (Registry.standing_set_standing _ _) rfl rfl nofun
  | send => exact h.keep (fun _ => rfl) rfl rfl fun _ => rfl
  | record => exact h.record
  | release => exact h.drop rfl rfl rfl rfl
  | fail => exact h.drop rfl rfl rfl rfl
  | withdraw => exact h.keep (fun _ => rfl) rfl rfl nofun
  | cancel => exact h.drop rfl rfl rfl rfl

theorem Agrees.append_waiting {more : List (Load × Push)} (h : l.Agrees pushes)
    (hmore : ∀ x ∈ more, x.2 = .waiting) : l.Agrees (pushes ++ more) where
  updating server := by
    have hnone : more.countP (isLiveFor server) = 0 :=
      List.countP_eq_zero.2 fun x hx => by simp [isLiveFor, hmore x hx, Push.isLive]
    rw [List.countP_append, hnone, Nat.add_zero, h.updating]
  version := h.version
  increasing := h.increasing
  newer x hx hpending := by
    rcases List.mem_append.1 hx with hx | hx
    · exact h.newer x hx hpending
    · rw [hmore x hx] at hpending
      cases hpending

/-- A move of a push concerns its own server only. -/
theorem Takes.get?_of_ne (hm : Takes l load p m l' p') (hne : server ≠ load.server) :
    l'.registry.standings.get? server = l.registry.standings.get? server := by
  cases hm with
  | send | withdraw => rfl
  | record | release | fail | cancel | start | skip => exact Registry.get?_set_of_ne _ _ hne

theorem Takes.version_le (hm : Takes l load p m l' p') (server : String) :
    (l.registry.standing server).version ≤ (l'.registry.standing server).version := by
  cases hm with
  | send | withdraw => exact Nat.le_refl _
  | record => exact Registry.version_le_standing_record _ _ _
  | release | fail | cancel => exact Nat.le_of_eq (Registry.version_standing_drop _ _ _).symm
  | start => exact Nat.le_of_eq (Registry.version_standing_set_updating _ _ _ _).symm
  | skip =>
    exact Nat.le_of_eq (congrArg Standing.version (Registry.standing_set_standing _ _ _).symm)

theorem Takes.loads_eq (hm : Takes l load p m l' p') :
    l'.loads = l.loads ++ if m = .send then [load] else [] := by
  cases hm with
  | send => rfl
  | start | skip | record | release | fail | withdraw | cancel => exact (List.append_nil _).symm

theorem Takes.acknowledged_eq (hm : Takes l load p m l' p') :
    l'.acknowledged = l.acknowledged ++ if m = .record then [load.update] else [] := by
  cases hm with
  | record => rfl
  | start | skip | send | release | fail | withdraw | cancel => exact (List.append_nil _).symm

/-- A load is begun only for a push that is admitted. -/
theorem Takes.eq_admitted (hm : Takes l load p .send l' p') : p = .admitted := by
  cases hm
  rfl

theorem isSome_advance (l : Ledger) (load : Load) (p : Push) (m : Move) :
    (l.advance load p m).isSome = true ↔ m ∈ p.moves := by
  cases p <;> cases m <;> simp [advance, Push.moves]
  case waiting.ask => split <;> rfl

/-- A live push that ends leaves its server free. -/
theorem Takes.updating_eq (hm : Takes l load p m l' p') (hlive : p.isLive = true)
    (hends : m ∈ [.release, .fail, .cancel]) :
    (l'.registry.standing load.server).updating = false := by
  cases hm with
  | release | fail | cancel => simp [Registry.standing_drop, Load.update]
  | send | record => simp at hends
  | start | skip | withdraw => cases hlive

theorem Agrees.version_le_of_mem (h : l.Agrees pushes) {u : Update} (hu : u ∈ l.acknowledged) :
    u.version ≤ (l.registry.standing u.server).version := by
  apply h.le_version
  simp only [versionsOf, List.mem_map, List.mem_filter]
  exact ⟨u, ⟨hu, by simp⟩, rfl⟩

end Ledger

end ProxyFleet.Delivery
