/-!
Finite maps with text keys, kept as lists in increasing key order with each key once. Putting a
value under a key keeps the order; reading the last value put under a key gives that value.
-/

namespace ProxyFleet

universe u v

/-- Entries in increasing key order. -/
structure Keyed (α : Type u) where
  entries : List (String × α)
  sorted : entries.Pairwise fun a b => a.1 < b.1
deriving DecidableEq

namespace Keyed

variable {α : Type u} {β : Type v}

instance [Repr α] : Repr (Keyed α) := ⟨fun m n => reprPrec m.entries n⟩

def empty : Keyed α := ⟨[], .nil⟩

instance : Inhabited (Keyed α) := ⟨empty⟩

/-- Puts `v` under `k`, before the first larger key or in place of an equal one. -/
def place (k : String) (v : α) : List (String × α) → List (String × α)
  | [] => [(k, v)]
  | e :: rest =>
    if k < e.1 then (k, v) :: e :: rest
    else if k = e.1 then (k, v) :: rest
    else e :: place k v rest

theorem mem_place {k : String} {v : α} {es : List (String × α)} {e : String × α}
    (h : e ∈ place k v es) : e = (k, v) ∨ e ∈ es := by
  induction es with
  | nil => simp_all [place]
  | cons d rest ih =>
    simp only [place] at h
    split at h
    · rcases List.mem_cons.1 h with rfl | h
      · exact .inl rfl
      · exact .inr h
    · split at h
      · rcases List.mem_cons.1 h with rfl | h
        · exact .inl rfl
        · exact .inr (List.mem_cons_of_mem _ h)
      · rcases List.mem_cons.1 h with rfl | h
        · exact .inr List.mem_cons_self
        · exact (ih h).imp_right (List.mem_cons_of_mem _)

/-- What is put under a new key joins the entries. -/
theorem place_perm {k : String} (v : α) {es : List (String × α)} (h : ∀ e ∈ es, e.1 ≠ k) :
    (place k v es).Perm ((k, v) :: es) := by
  induction es with
  | nil => exact .refl _
  | cons e rest ih =>
    obtain ⟨he, hrest⟩ := List.forall_mem_cons.1 h
    simp only [place]
    split
    · exact .refl _
    · rw [if_neg (Ne.symm he)]
      exact ((ih hrest).cons e).trans (.swap _ _ _)

theorem lt_of_not_lt_of_ne {a b : String} (h : ¬a < b) (hne : a ≠ b) : b < a := by
  rcases String.le_total a b with hab | hba
  · exact absurd (String.le_antisymm hab (String.not_lt.1 h)) hne
  · exact Decidable.byContradiction fun hn => hne (String.le_antisymm (String.not_lt.1 hn) hba)

theorem pairwise_place {k : String} {v : α} {es : List (String × α)}
    (h : es.Pairwise fun a b => a.1 < b.1) :
    (place k v es).Pairwise fun a b => a.1 < b.1 := by
  induction es with
  | nil => simp [place]
  | cons e rest ih =>
    obtain ⟨he, hrest⟩ := List.pairwise_cons.1 h
    simp only [place]
    split
    · rename_i hk
      refine List.pairwise_cons.2 ⟨fun d hd => ?_, h⟩
      rcases List.mem_cons.1 hd with rfl | hd
      · exact hk
      · exact String.lt_trans hk (he d hd)
    · split
      · rename_i hk
        exact List.pairwise_cons.2 ⟨fun d hd => by simpa [hk] using he d hd, hrest⟩
      · rename_i hlt hne
        refine List.pairwise_cons.2 ⟨fun d hd => ?_, ih hrest⟩
        rcases mem_place hd with rfl | hd
        · exact lt_of_not_lt_of_ne hlt hne
        · exact he d hd

def put (m : Keyed α) (k : String) (v : α) : Keyed α :=
  ⟨place k v m.entries, pairwise_place m.sorted⟩

/-- The map of a list of pairs; of pairs with one key the last counts. -/
def ofList (pairs : List (String × α)) : Keyed α :=
  pairs.foldl (fun m e => m.put e.1 e.2) empty

def get? (m : Keyed α) (k : String) : Option α :=
  m.entries.lookup k

def contains (m : Keyed α) (k : String) : Bool :=
  (m.get? k).isSome

def keys (m : Keyed α) : List String :=
  m.entries.map Prod.fst

def values (m : Keyed α) : List α :=
  m.entries.map Prod.snd

def isEmpty (m : Keyed α) : Bool :=
  m.entries.isEmpty

/-- The entries that satisfy a test. -/
def filter (m : Keyed α) (p : String → α → Bool) : Keyed α :=
  ⟨m.entries.filter fun e => p e.1 e.2, m.sorted.filter _⟩

def erase (m : Keyed α) (k : String) : Keyed α :=
  m.filter fun j _ => j ≠ k

/-- Changes every value and no key. -/
def map (m : Keyed α) (f : α → β) : Keyed β :=
  ⟨m.entries.map fun e => (e.1, f e.2), m.sorted.map _ fun _ _ h => h⟩

/-- Changes the value under `k`, which may be missing before. -/
def modify (m : Keyed α) (k : String) (f : Option α → α) : Keyed α :=
  m.put k (f (m.get? k))

theorem lookup_place_self (k : String) (v : α) (es : List (String × α)) :
    (place k v es).lookup k = some v := by
  induction es with
  | nil => simp [place]
  | cons e rest ih =>
    obtain ⟨j, w⟩ := e
    simp only [place]
    split
    · simp
    · split
      · simp
      · rename_i hne
        have hb : (k == j) = false := by simpa using hne
        simp [List.lookup_cons, hb, ih]

theorem lookup_place_of_ne {k j : String} (v : α) (es : List (String × α)) (h : j ≠ k) :
    (place k v es).lookup j = es.lookup j := by
  have hb : (j == k) = false := by simpa using h
  induction es with
  | nil => simp [place, List.lookup_cons, hb]
  | cons e rest ih =>
    obtain ⟨i, w⟩ := e
    simp only [place]
    split
    · simp [List.lookup_cons, hb]
    · split
      · rename_i hk
        have hi : (j == i) = false := by simpa [← hk] using h
        simp [List.lookup_cons, hb, hi]
      · simp only [List.lookup_cons, ih]

@[simp] theorem get?_put_self (m : Keyed α) (k : String) (v : α) : (m.put k v).get? k = some v :=
  lookup_place_self k v m.entries

theorem get?_put_of_ne (m : Keyed α) {k j : String} (v : α) (h : j ≠ k) :
    (m.put k v).get? j = m.get? j :=
  lookup_place_of_ne v m.entries h

/-- A key whose value passes, whatever it is, is looked up as before. -/
theorem get?_filter (m : Keyed α) {p : String → α → Bool} {k : String} (h : ∀ v, p k v = true) :
    (m.filter p).get? k = m.get? k := by
  simp only [get?, filter]
  induction m.entries with
  | nil => rfl
  | cons e rest ih =>
    obtain ⟨j, w⟩ := e
    cases hk : k == j with
    | true =>
      have hp : p j w = true := beq_iff_eq.1 hk ▸ h w
      simp only [List.filter_cons, hp, if_true, List.lookup_cons, hk]
    | false =>
      simp only [List.filter_cons, List.lookup_cons, hk, ← ih]
      split
      · rw [List.lookup_cons, hk]
      · rfl

/-- Maps with the same entries in some order are the same. -/
theorem eq_of_perm {m n : Keyed α} (h : m.entries.Perm n.entries) : m = n := by
  have hentries : m.entries = n.entries :=
    List.Perm.eq_of_pairwise
      (fun _ _ _ _ hab hba => absurd (String.lt_trans hab hba) (String.lt_irrefl _)) m.sorted n.sorted h
  obtain ⟨es, hes⟩ := m
  cases hentries
  rfl

theorem nodup_keys (m : Keyed α) : (m.entries.map Prod.fst).Nodup := by
  refine List.pairwise_map.2 (m.sorted.imp fun {a b} hab he => ?_)
  rw [he] at hab
  exact String.lt_irrefl _ hab

theorem mem_entries_foldl_put {pairs : List (String × α)} {m : Keyed α} {e : String × α}
    (h : e ∈ (pairs.foldl (fun m e => m.put e.1 e.2) m).entries) : e ∈ m.entries ∨ e ∈ pairs := by
  induction pairs generalizing m with
  | nil => exact .inl h
  | cons p rest ih =>
    rcases ih h with h | h
    · rcases mem_place h with rfl | h
      · exact .inr List.mem_cons_self
      · exact .inl h
    · exact .inr (List.mem_cons_of_mem _ h)

theorem mem_of_mem_ofList {pairs : List (String × α)} {e : String × α}
    (h : e ∈ (ofList pairs).entries) : e ∈ pairs :=
  (mem_entries_foldl_put h).resolve_left List.not_mem_nil

theorem entries_foldl_put_perm {pairs : List (String × α)} {m : Keyed α}
    (h : ((m.entries ++ pairs).map Prod.fst).Nodup) :
    (pairs.foldl (fun m e => m.put e.1 e.2) m).entries.Perm (m.entries ++ pairs) := by
  induction pairs generalizing m with
  | nil => exact .of_eq (List.append_nil _).symm
  | cons p rest ih =>
    have hnew : ∀ e ∈ m.entries, e.1 ≠ p.1 := by
      rw [List.map_append, List.map_cons, List.nodup_append] at h
      exact fun e he => h.2.2 _ (List.mem_map_of_mem he) _ List.mem_cons_self
    have hplace : ((m.put p.1 p.2).entries ++ rest).Perm (m.entries ++ p :: rest) :=
      ((place_perm p.2 hnew).append_right rest).trans List.perm_middle.symm
    exact (ih ((hplace.map Prod.fst).nodup_iff.2 h)).trans hplace

/-- Where no key is given twice, the map has exactly the given pairs as its entries. -/
theorem entries_ofList_perm {pairs : List (String × α)} (h : (pairs.map Prod.fst).Nodup) :
    (ofList pairs).entries.Perm pairs :=
  entries_foldl_put_perm h

theorem ofList_eq_of_perm {pairs : List (String × α)} {m : Keyed α} (h : pairs.Perm m.entries) :
    ofList pairs = m :=
  eq_of_perm ((entries_ofList_perm ((h.map Prod.fst).nodup_iff.2 m.nodup_keys)).trans h)

@[simp] theorem get?_empty (k : String) : (empty : Keyed α).get? k = none := rfl

end Keyed

end ProxyFleet
