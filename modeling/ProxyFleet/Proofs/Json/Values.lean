import Mathlib.Data.List.Perm.Basic
import ProxyFleet.Json.Fields
import ProxyFleet.Proofs.Json.Bytes
import ProxyFleet.Proofs.Json.ReadBack

/-!
Documents by their values. Two documents have the same value if they differ only in the order in
which the members of their objects are written. Fields, lists and maps are read alike from all
documents with one value, as long as no name is given twice.
-/

namespace ProxyFleet.Json

mutual

def isUnambiguous : Json → Bool
  | .arr items => areUnambiguous items
  | .obj members => decide (members.map Prod.fst).Nodup && haveUnambiguousValues members
  | _ => true

def areUnambiguous : List Json → Bool
  | [] => true
  | item :: rest => isUnambiguous item && areUnambiguous rest

def haveUnambiguousValues : List (String × Json) → Bool
  | [] => true
  | (_, value) :: rest => isUnambiguous value && haveUnambiguousValues rest

end

theorem areUnambiguous_iff {items : List Json} :
    areUnambiguous items = true ↔ ∀ item ∈ items, isUnambiguous item = true := by
  induction items with
  | nil => simp [areUnambiguous]
  | cons item rest ih => simp [areUnambiguous, ih]

theorem haveUnambiguousValues_iff {members : List (String × Json)} :
    haveUnambiguousValues members = true ↔ ∀ m ∈ members, isUnambiguous m.2 = true := by
  induction members with
  | nil => simp [haveUnambiguousValues]
  | cons m rest ih => simp [haveUnambiguousValues, ih]

theorem normalItems_eq_map (items : List Json) : normalItems items = items.map normal := by
  induction items with
  | nil => rw [normalItems, List.map_nil]
  | cons item rest ih => rw [normalItems, ih, List.map_cons]

theorem normalValues_eq_map (members : List (String × Json)) :
    normalValues members = members.map fun m => (m.1, normal m.2) := by
  induction members with
  | nil => rw [normalValues, List.map_nil]
  | cons m rest ih => rw [normalValues, ih, List.map_cons]

theorem normal_obj (members : List (String × Json)) :
    normal (.obj members) = ofKeyed (Keyed.ofList (members.map fun m => (m.1, normal m.2))) := by
  rw [normal, normalMembers.eq_def, normalValues_eq_map, ofKeyed]

/-- The document has this value, and no object of it gives a name twice. -/
structure HasValue (json value : Json) : Prop where
  normal_eq : json.normal = value
  unambiguous : json.isUnambiguous = true

namespace HasValue

variable {json : Json}

theorem eq_str {s : String} (h : json.HasValue (.str s)) : json = .str s := by
  have hnormal := h.normal_eq
  cases json <;> simp_all [normal]

theorem exists_items {values : List Json} (h : json.HasValue (.arr values)) :
    ∃ items, json = .arr items ∧ List.Forall₂ HasValue items values := by
  obtain ⟨hnormal, hunambiguous⟩ := h
  cases json with
  | arr items =>
    refine ⟨items, rfl, ?_⟩
    rw [normal, normalItems_eq_map, arr.injEq] at hnormal
    rw [isUnambiguous, areUnambiguous_iff] at hunambiguous
    rw [← hnormal, List.forall₂_map_right_iff, List.forall₂_same]
    exact fun item hitem => ⟨rfl, hunambiguous item hitem⟩
  | _ => simp [normal] at hnormal

/-- An object has the values of its members, in some order. -/
theorem exists_members {m : Keyed Json} {pairs : List (String × Json)}
    (h : json.HasValue (ofKeyed m)) (hpairs : m.entries.Perm pairs) :
    ∃ members members', json = .obj members ∧ members.Perm members' ∧
      List.Forall₂ (fun a b => a.1 = b.1 ∧ HasValue a.2 b.2) members' pairs := by
  obtain ⟨hnormal, hunambiguous⟩ := h
  cases json with
  | obj members =>
    rw [isUnambiguous, Bool.and_eq_true, decide_eq_true_iff, haveUnambiguousValues_iff]
      at hunambiguous
    obtain ⟨hnames, hvalues⟩ := hunambiguous
    rw [normal_obj, ofKeyed, ofKeyed, obj.injEq] at hnormal
    have hnodup : ((members.map fun m => (m.1, normal m.2)).map Prod.fst).Nodup := by
      rw [List.map_map]
      exact hnames
    -- no name is given twice, so that sorting by names drops nothing
    have hperm := Keyed.entries_ofList_perm hnodup
    rw [hnormal] at hperm
    have hmembers : List.Forall₂ (fun b a => a.1 = b.1 ∧ HasValue a.2 b.2)
        (members.map fun m => (m.1, normal m.2)) members := by
      rw [List.forall₂_map_left_iff, List.forall₂_same]
      exact fun a ha => ⟨rfl, rfl, hvalues a ha⟩
    obtain ⟨members', hforall, hp⟩ := List.perm_comp_forall₂ (hpairs.symm.trans hperm) hmembers
    exact ⟨members, members', rfl, hp.symm, hforall.flip⟩
  | _ => simp [normal, ofKeyed] at hnormal

end HasValue

/-! Reading -/

theorem mapM_eq_some_iff {α β : Type} {f : α → Option β} {as : List α} {bs : List β} :
    as.mapM f = some bs ↔ List.Forall₂ (fun a b => f a = some b) as bs := by
  induction as generalizing bs with
  | nil => simp [eq_comm]
  | cons a as ih =>
    simp only [List.mapM_cons, Option.bind_eq_bind, Option.bind_eq_some_iff, Option.pure_def,
      Option.some.injEq, List.forall₂_cons_left_iff, ih]
    constructor
    · rintro ⟨b, hb, bs, hbs, rfl⟩
      exact ⟨b, bs, hb, hbs, rfl⟩
    · rintro ⟨b, bs, hb, hbs, rfl⟩
      exact ⟨b, hb, bs, hbs, rfl⟩

theorem field?_of_mem {members : List (String × Json)} (hnames : (members.map Prod.fst).Nodup)
    {m : String × Json} (hm : m ∈ members) : field? members m.1 = some (some m.2) := by
  have hfilter : members.filter (·.1 = m.1) = [m] := by
    induction members with
    | nil => cases hm
    | cons a rest ih =>
      obtain ⟨ha, hrest⟩ := List.nodup_cons.1 hnames
      rcases List.mem_cons.1 hm with rfl | hm
      · have hothers : ∀ b ∈ rest, ¬decide (b.1 = m.1) = true := by
          intro b hb he
          exact ha (of_decide_eq_true he ▸ List.mem_map_of_mem hb)
        rw [List.filter_cons_of_pos (by simp), List.filter_eq_nil_iff.2 hothers]
      · have hne : a.1 ≠ m.1 := fun he => ha (he ▸ List.mem_map_of_mem hm)
        rw [List.filter_cons_of_neg (by simp [hne]), ih hrest hm]
  rw [field?, hfilter]

/-- The fields of a record are found in whatever order the members of its document are written. -/
theorem HasValue.fields? {json : Json} {pairs : List (String × Json)} {names : List String}
    (h : json.HasValue (object pairs)) (hnodup : names.Nodup) (hpairs : pairs.map Prod.fst = names) :
    ∃ fields, Json.fields? names json = some (fields.map some) ∧
      List.Forall₂ HasValue fields (pairs.map Prod.snd) := by
  subst hpairs
  obtain ⟨members, members', rfl, hperm, hforall⟩ :=
    h.exists_members (Keyed.entries_ofList_perm hnodup)
  have hnames : members'.map Prod.fst = pairs.map Prod.fst := by
    rw [← List.forall₂_eq_eq_eq, List.forall₂_map_left_iff, List.forall₂_map_right_iff]
    exact hforall.imp fun _ _ hab => hab.1
  have hmembers : (members.map Prod.fst).Nodup := by
    rw [(hperm.map Prod.fst).nodup_iff, hnames]
    exact hnodup
  refine ⟨members'.map Prod.snd, ?_, ?_⟩
  · rw [Json.fields?, ← hnames, mapM_eq_some_iff, List.forall₂_map_left_iff,
      List.forall₂_map_right_iff, List.forall₂_map_right_iff, List.forall₂_same]
    exact fun m hm => field?_of_mem hmembers (hperm.mem_iff.2 hm)
  · rw [List.forall₂_map_left_iff, List.forall₂_map_right_iff]
    exact hforall.imp fun _ _ hab => hab.2

section Reading

variable {α : Type} {write : α → Json} {read? : Json → Option α}

theorem HasValue.list? (hread : ∀ a json, HasValue json (write a) → read? json = some a)
    {json : Json} {as : List α} (h : json.HasValue (.arr (as.map write))) :
    json.list? read? = some as := by
  obtain ⟨items, rfl, hitems⟩ := h.exists_items
  rw [List.forall₂_map_right_iff] at hitems
  exact mapM_eq_some_iff.2 (hitems.imp fun json a hvalue => hread a json hvalue)

theorem HasValue.map? (hread : ∀ a json, HasValue json (write a) → read? json = some a)
    {json : Json} {m : Keyed α} (h : json.HasValue (ofKeyed (m.map write))) :
    json.map? read? = some m := by
  obtain ⟨members, members', rfl, hperm, hforall⟩ := h.exists_members (.refl _)
  have hread' : List.Forall₂ (fun a e => (read? a.2).map (a.1, ·) = some e) members' m.entries := by
    rw [Keyed.map, List.forall₂_map_right_iff] at hforall
    exact hforall.imp fun a e hab => by rw [hread _ _ hab.2, hab.1, Option.map_some]
  obtain ⟨entries, hentries, hp⟩ := List.perm_comp_forall₂ hperm hread'
  rw [Json.map?, mapM_eq_some_iff.2 hentries, Option.map_some, Keyed.ofList_eq_of_perm hp]

theorem optional_some (default : α) (json : Json) :
    optional default read? (some json) = read? json :=
  rfl

/-- What is read from a document is read where it may be missing or null, too. -/
theorem nullable_some {default a : α} {json : Json} (hnull : read? .null = none)
    (h : read? json = some a) : nullable default read? (some json) = some a := by
  cases json with
  | null => rw [hnull] at h; cases h
  | _ => exact h

end Reading

/-! The documents of records -/

/-- A document as records are written: of texts, lists, and objects in the order of their names. -/
inductive Canonical : Json → Prop
  | str (s : String) : Canonical (.str s)
  | arr {items : List Json} (h : ∀ item ∈ items, Canonical item) : Canonical (.arr items)
  | ofKeyed {m : Keyed Json} (h : ∀ e ∈ m.entries, Canonical e.2) : Canonical (ofKeyed m)

attribute [simp] Canonical.str

@[simp] theorem canonical_object {pairs : List (String × Json)} (h : ∀ p ∈ pairs, Canonical p.2) :
    Canonical (object pairs) :=
  .ofKeyed fun e he => h e (Keyed.mem_of_mem_ofList he)

theorem canonical_arr_map {α : Type} {write : α → Json} (h : ∀ a, Canonical (write a))
    (as : List α) : Canonical (.arr (as.map write)) :=
  .arr fun _ hitem => by
    obtain ⟨a, -, rfl⟩ := List.mem_map.1 hitem
    exact h a

theorem canonical_ofKeyed_map {α : Type} {write : α → Json} (h : ∀ a, Canonical (write a))
    (m : Keyed α) : Canonical (ofKeyed (m.map write)) :=
  .ofKeyed fun _ he => by
    obtain ⟨a, -, rfl⟩ := List.mem_map.1 he
    exact h a.2

theorem Canonical.hasValue_self {json : Json} (h : Canonical json) : json.HasValue json := by
  induction h with
  | str s => exact ⟨by simp [normal], by simp [isUnambiguous]⟩
  | @arr items _ ih =>
    refine ⟨?_, ?_⟩
    · have hvalues : items.map normal = items.map id :=
        List.map_congr_left fun item hitem => (ih item hitem).normal_eq
      rw [normal, normalItems_eq_map, hvalues, List.map_id]
    · rw [isUnambiguous, areUnambiguous_iff]
      exact fun item hitem => (ih item hitem).unambiguous
  | @ofKeyed m _ ih =>
    refine ⟨?_, ?_⟩
    · have hvalues : (m.entries.map fun e => (e.1, normal e.2)) = m.entries.map id :=
        List.map_congr_left fun e he => by rw [(ih e he).normal_eq, id]
      rw [Json.ofKeyed, normal_obj, hvalues, List.map_id, Keyed.ofList_eq_of_perm (.refl _),
        Json.ofKeyed]
    · rw [Json.ofKeyed, isUnambiguous, Bool.and_eq_true, decide_eq_true_iff,
        haveUnambiguousValues_iff]
      exact ⟨m.nodup_keys, fun e he => (ih e he).unambiguous⟩

theorem exists_of_mem_of_forall₂ {α β : Type} {R : α → β → Prop} {as : List α} {bs : List β}
    (h : List.Forall₂ R as bs) {a : α} (ha : a ∈ as) : ∃ b ∈ bs, R a b := by
  induction h with
  | nil => cases ha
  | cons hab _ ih =>
    rcases List.mem_cons.1 ha with rfl | ha
    · exact ⟨_, List.mem_cons_self, hab⟩
    · obtain ⟨b, hb, hr⟩ := ih ha
      exact ⟨b, List.mem_cons_of_mem _ hb, hr⟩

theorem HasValue.plain {json value : Json} (h : json.HasValue value) (hvalue : Canonical value) :
    Plain json := by
  induction hvalue generalizing json with
  | str s =>
    rw [h.eq_str]
    exact .str s
  | arr _ ih =>
    obtain ⟨items, rfl, hitems⟩ := h.exists_items
    refine .arr fun item hitem => ?_
    obtain ⟨value, hvalue, hitem⟩ := exists_of_mem_of_forall₂ hitems hitem
    exact ih value hvalue hitem
  | ofKeyed _ ih =>
    obtain ⟨members, members', rfl, hperm, hforall⟩ := h.exists_members (.refl _)
    refine .obj fun m hm => ?_
    obtain ⟨e, he, -, hvalue⟩ := exists_of_mem_of_forall₂ hforall (hperm.mem_iff.1 hm)
    exact ih e he hvalue

theorem HasValue.ofBytes?_text {json value : Json} (h : json.HasValue value)
    (hvalue : Canonical value) : ofBytes? (Text.utf8 json.text) = some json := by
  rw [ofBytes?_utf8, (h.plain hvalue).parse?_text]

end ProxyFleet.Json
