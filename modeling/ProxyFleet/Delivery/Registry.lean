import ProxyFleet.Keyed

/-!
The registry of servers: for each whether a push to it is in flight and the last version that it has
acknowledged. A push may start only if none is in flight and its version is newer; it ends by being
acknowledged or dropped.
-/

namespace ProxyFleet.Delivery

structure Standing where
  updating : Bool := false
  version : Nat := 0
deriving DecidableEq, Repr, Inhabited

/-- A push in flight. -/
structure Update where
  server : String
  version : Nat
deriving DecidableEq, Repr, Inhabited

/-- Whether a push may start. -/
inductive Start where
  | started (update : Update)
  | inFlight
  | upToDate
deriving DecidableEq, Repr, Inhabited

/-- The servers that were ever to be pushed to. -/
structure Registry where
  standings : Keyed Standing := Keyed.empty
deriving DecidableEq, Repr, Inhabited

namespace Registry

/-- The standing of a server; one that was never seen has acknowledged nothing. -/
def standing (r : Registry) (server : String) : Standing := (r.standings.get? server).getD {}

def set (r : Registry) (server : String) (s : Standing) : Registry := ⟨r.standings.put server s⟩

/-- Asks to push a version to a server. The server is known from then on. -/
def start (r : Registry) (server : String) (version : Nat) : Start × Registry :=
  let s := r.standing server
  if s.updating then (.inFlight, r.set server s)
  else if version ≤ s.version then (.upToDate, r.set server s)
  else (.started ⟨server, version⟩, r.set server { s with updating := true })

/-- Ends a push. -/
def drop (r : Registry) (u : Update) : Registry :=
  r.set u.server { r.standing u.server with updating := false }

/-- Notes that the server of a push has loaded its version. The push is still in flight. -/
def record (r : Registry) (u : Update) : Registry :=
  r.set u.server
    { r.standing u.server with version := max (r.standing u.server).version u.version }

/-- Ends a push that the server has acknowledged. Others may use the registry between the two. -/
def acknowledge (r : Registry) (u : Update) : Registry := (r.record u).drop u

theorem standing_set (r : Registry) (server other : String) (s : Standing) :
    (r.set server s).standing other = if other = server then s else r.standing other := by
  split
  · next h => simp [h, standing, set]
  · next h => simp [standing, set, Keyed.get?_put_of_ne _ _ h]

theorem standing_set_standing (r : Registry) (server other : String) :
    (r.set server (r.standing server)).standing other = r.standing other := by
  rw [standing_set]
  split
  · next h => rw [h]
  · rfl

theorem version_standing_set_updating (r : Registry) (server other : String) (updating : Bool) :
    ((r.set server { r.standing server with updating }).standing other).version =
      (r.standing other).version := by
  rw [standing_set]
  split
  · next h => rw [h]
  · rfl

theorem standing_drop (r : Registry) (u : Update) (other : String) :
    (r.drop u).standing other =
      if other = u.server then { r.standing other with updating := false } else r.standing other := by
  rw [drop, standing_set]
  split
  · next h => rw [h]
  · rfl

theorem version_standing_drop (r : Registry) (u : Update) (other : String) :
    ((r.drop u).standing other).version = (r.standing other).version := by
  rw [standing_drop]
  split <;> rfl

theorem standing_record (r : Registry) (u : Update) (other : String) :
    (r.record u).standing other =
      if other = u.server then
        { r.standing other with version := max (r.standing other).version u.version }
      else r.standing other := by
  rw [record, standing_set]
  split
  · next h => rw [h]
  · rfl

theorem updating_standing_record (r : Registry) (u : Update) (other : String) :
    ((r.record u).standing other).updating = (r.standing other).updating := by
  rw [standing_record]
  split <;> rfl

theorem version_le_standing_record (r : Registry) (u : Update) (other : String) :
    (r.standing other).version ≤ ((r.record u).standing other).version := by
  rw [standing_record]
  split
  · exact Nat.le_max_left _ _
  · exact Nat.le_refl _

theorem get?_set_of_ne (r : Registry) {server other : String} (s : Standing) (h : other ≠ server) :
    (r.set server s).standings.get? other = r.standings.get? other :=
  Keyed.get?_put_of_ne _ _ h

theorem start_eq_started (r : Registry) (server : String) (version : Nat) (u : Update) :
    (r.start server version).1 = .started u ↔
      u = ⟨server, version⟩ ∧ (r.standing server).updating = false ∧
        (r.standing server).version < version := by
  rw [Registry.start]
  by_cases hbusy : (r.standing server).updating = true
  · simp [hbusy]
  · by_cases hold : version ≤ (r.standing server).version
    · simp [hbusy, hold, Nat.not_lt.2 hold]
    · simp [hbusy, hold, Nat.lt_of_not_le hold, eq_comm]

end Registry

end ProxyFleet.Delivery
