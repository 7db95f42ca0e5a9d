import ProxyFleet.Proofs.Label.Rejected
import ProxyFleet.Proofs.Label.Segments

/-!
Labels become the tree of the prefixes of their names. Each way in which a name begins has one block,
below the block of the prefix that is shorter by a segment; the block has the words of the label of
that very name, whichever label it was made for.
-/

namespace ProxyFleet.Label

open Template (Functions)

structure Planting where
  path : List Segment
  words : List String

/-- A path with which something that was planted begins. -/
def Begun (planted : List Planting) (path : List Segment) : Prop :=
  ∃ p ∈ planted, path <+: p.path

def wordsAt (planted : List Planting) (path : List Segment) : List String :=
  planted.flatMap fun p => if p.path = path then p.words else []

/-- The branches at a path, and all below them, are those of what was planted. -/
inductive Grown (planted : List Planting) : List Segment → List Branch → Prop
  | intro {path : List Segment} {branches : List Branch}
    (nodup : (branches.map Branch.segment).Nodup)
    (begun : ∀ s, s ∈ branches.map Branch.segment ↔ Begun planted (path ++ [s]))
    (words : ∀ b ∈ branches, b.words = wordsAt planted (path ++ [b.segment]))
    (below : ∀ b ∈ branches, Grown planted (path ++ [b.segment]) b.children) :
    Grown planted path branches

variable {planted : List Planting} {path : List Segment} {branches : List Branch}

theorem begun_concat {p : Planting} :
    Begun (planted ++ [p]) path ↔ Begun planted path ∨ path <+: p.path := by
  simp [Begun, or_and_right, exists_or]

theorem wordsAt_concat (p : Planting) : wordsAt (planted ++ [p]) path =
    wordsAt planted path ++ if p.path = path then p.words else [] := by
  simp [wordsAt]

theorem wordsAt_of_not_begun (h : ¬ Begun planted path) : wordsAt planted path = [] := by
  rw [wordsAt, List.flatMap_eq_nil_iff]
  intro p hp
  rw [if_neg]
  rintro rfl
  exact h ⟨p, hp, List.prefix_refl _⟩

theorem Begun.shorter {more : List Segment} (h : Begun planted (path ++ more)) :
    Begun planted path := by
  obtain ⟨p, hp, hpre⟩ := h
  exact ⟨p, hp, (List.prefix_append path more).trans hpre⟩

theorem grown_nil (h : ∀ s, ¬ Begun planted (path ++ [s])) : Grown planted path [] :=
  .intro List.nodup_nil (fun s => by simp [h s]) nofun nofun

/-- What is planted elsewhere changes nothing here. -/
theorem Grown.frame {p : Planting} (h : Grown planted path branches)
    (hp : ∀ s, ¬ path ++ [s] <+: p.path) : Grown (planted ++ [p]) path branches := by
  induction h with
  | @intro path branches nodup begun words below ih =>
    refine .intro nodup (fun s => ?_) (fun b hb => ?_) (fun b hb => ?_)
    · simp [begun, begun_concat, hp]
    · have hne : p.path ≠ path ++ [b.segment] := fun he => hp b.segment (he ▸ List.prefix_refl _)
      rw [words b hb, wordsAt_concat, if_neg hne, List.append_nil]
    · exact ih b hb fun s hs => hp b.segment ((List.prefix_append _ _).trans hs)

/-- The branch with words for itself, or for a path below it. -/
def Branch.extend (words : List String) (path : List Segment) (b : Branch) : Branch :=
  ⟨b.segment, b.words ++ (if path = [] then words else []), grow words path b.children⟩

theorem grow_cons (words : List String) (s : Segment) (path : List Segment)
    (branches : List Branch) : grow words (s :: path) branches =
      changeFirst (·.segment = s) (Branch.extend words path) (Branch.extend words path ⟨s, [], []⟩)
        branches := by
  cases path with
  | nil =>
    simp only [grow, Branch.extend]
    rfl
  | cons t path =>
    unfold Branch.extend
    simp [grow]

def GrownAt (planted : List Planting) (path : List Segment) (b : Branch) : Prop :=
  b.words = wordsAt planted (path ++ [b.segment]) ∧
    Grown planted (path ++ [b.segment]) b.children

theorem Grown.mem (h : Grown planted path branches) {b : Branch} (hb : b ∈ branches) :
    GrownAt planted path b := by
  cases h with
  | intro nodup begun words below => exact ⟨words b hb, below b hb⟩

theorem grownAt_new {s : Segment} (h : ¬ Begun planted (path ++ [s])) :
    GrownAt planted path ⟨s, [], []⟩ :=
  ⟨(wordsAt_of_not_begun h).symm, grown_nil fun _ ht => h ht.shorter⟩

theorem concat_prefix_iff {s t : Segment} {more : List Segment} :
    path ++ [t] <+: path ++ s :: more ↔ t = s := by
  simp [List.prefix_append_right_inj, List.cons_prefix_cons]

/-- A branch is left as it is when something is planted under another segment. -/
theorem GrownAt.frame {b : Branch} (h : GrownAt planted path b) {s : Segment} (hne : b.segment ≠ s)
    (more : List Segment) (words : List String) :
    GrownAt (planted ++ [⟨path ++ s :: more, words⟩]) path b := by
  have hpre : ¬ path ++ [b.segment] <+: path ++ s :: more := mt concat_prefix_iff.1 hne
  refine ⟨?_, h.2.frame fun t ht => hpre ((List.prefix_append _ _).trans ht)⟩
  rw [wordsAt_concat, if_neg, List.append_nil, h.1]
  exact fun he => hpre (he ▸ List.prefix_refl _)

theorem grown_of_grownAt (hnodup : (branches.map Branch.segment).Nodup)
    (hbegun : ∀ s, s ∈ branches.map Branch.segment ↔ Begun planted (path ++ [s]))
    (hall : ∀ b ∈ branches, GrownAt planted path b) : Grown planted path branches :=
  .intro hnodup hbegun (fun b hb => (hall b hb).1) fun b hb => (hall b hb).2

/-! One segment is looked for among the branches, and added if it is missing. -/

section Change

variable {s : Segment} {change : Branch → Branch} {new : Branch}
  (hchange : ∀ b, (change b).segment = b.segment) (hnew : new.segment = s)

include hchange hnew in
theorem map_segment_changeFirst (branches : List Branch) :
    (changeFirst (fun b => b.segment = s) change new branches).map Branch.segment =
      if s ∈ branches.map Branch.segment then branches.map Branch.segment
      else branches.map Branch.segment ++ [s] := by
  induction branches with
  | nil => simp [changeFirst, hnew]
  | cons b rest ih =>
    rw [changeFirst]
    by_cases hs : b.segment = s
    · simp [hs, hchange]
    · have hne : s ≠ b.segment := Ne.symm hs
      simp only [hs, decide_false, Bool.false_eq_true, if_false, List.map_cons, List.mem_cons, hne,
        false_or, ih]
      split <;> rfl

theorem mem_changeFirst_of_nodup {x : Branch} (hnodup : (branches.map Branch.segment).Nodup)
    (h : x ∈ changeFirst (fun b => b.segment = s) change new branches) :
    x ∈ branches ∧ x.segment ≠ s ∨ (∃ b ∈ branches, b.segment = s ∧ x = change b) ∨
      x = new ∧ s ∉ branches.map Branch.segment := by
  induction branches with
  | nil => exact Or.inr (Or.inr ⟨List.mem_singleton.1 h, List.not_mem_nil⟩)
  | cons b rest ih =>
    rw [List.map_cons, List.nodup_cons] at hnodup
    rw [changeFirst] at h
    by_cases hs : b.segment = s
    · rw [if_pos (by simpa using hs), List.mem_cons] at h
      rcases h with rfl | h
      · exact Or.inr (Or.inl ⟨b, List.mem_cons_self, hs, rfl⟩)
      · refine Or.inl ⟨List.mem_cons_of_mem b h, fun hx => hnodup.1 ?_⟩
        exact List.mem_map.2 ⟨x, h, hx.trans hs.symm⟩
    · rw [if_neg (by simpa using hs), List.mem_cons] at h
      rcases h with rfl | h
      · exact Or.inl ⟨List.mem_cons_self, hs⟩
      · rcases ih hnodup.2 h with ⟨hx, hxs⟩ | ⟨c, hc, hcs, rfl⟩ | ⟨rfl, hmem⟩
        · exact Or.inl ⟨List.mem_cons_of_mem b hx, hxs⟩
        · exact Or.inr (Or.inl ⟨c, List.mem_cons_of_mem b hc, hcs, rfl⟩)
        · refine Or.inr (Or.inr ⟨rfl, ?_⟩)
          rw [List.map_cons, List.mem_cons, not_or]
          exact ⟨Ne.symm hs, hmem⟩

include hchange hnew in
theorem Grown.atSegment {more : List Segment} {words : List String} (h : Grown planted path branches)
    (hthere : ∀ b, b.segment = s → GrownAt planted path b →
      GrownAt (planted ++ [⟨path ++ s :: more, words⟩]) path (change b))
    (hmissing : ¬ Begun planted (path ++ [s]) →
      GrownAt (planted ++ [⟨path ++ s :: more, words⟩]) path new) :
    Grown (planted ++ [⟨path ++ s :: more, words⟩]) path
      (changeFirst (fun b => b.segment = s) change new branches) := by
  have hat {b : Branch} (hb : b ∈ branches) := h.mem hb
  obtain ⟨hnodup, hbegun, -, -⟩ := h
  have hmap := map_segment_changeFirst hchange hnew branches
  refine grown_of_grownAt ?_ (fun t => ?_) fun x hx => ?_
  · rw [hmap]
    split
    · exact hnodup
    · next hs =>
      rw [List.nodup_append]
      refine ⟨hnodup, by simp, ?_⟩
      rintro t ht u hu rfl
      exact hs (List.mem_singleton.1 hu ▸ ht)
  · rw [hmap, begun_concat, concat_prefix_iff, ← hbegun]
    split
    · next hs =>
      constructor
      · exact Or.inl
      · rintro (ht | rfl)
        · exact ht
        · exact hs
    · rw [List.mem_append, List.mem_singleton]
  · rcases mem_changeFirst_of_nodup hnodup hx with ⟨hb, hs⟩ | ⟨b, hb, hs, rfl⟩ | ⟨rfl, hs⟩
    · exact (hat hb).frame hs more words
    · exact hthere b hs (hat hb)
    · -- A segment without a branch begins no path, so nothing was planted below it.
      exact hmissing fun hbegins => hs ((hbegun s).2 hbegins)

end Change

/-- Growing a path adds what is planted there. -/
theorem Grown.grow (words : List String) {more : List Segment} (h : Grown planted path branches) :
    Grown (planted ++ [⟨path ++ more, words⟩]) path (grow words more branches) := by
  -- On the path: below a segment the branches are those of a path that is longer by it.
  induction more generalizing path branches with
  | nil =>
    refine h.frame fun s hs => ?_
    have hlen := hs.length_le
    simp at hlen
  | cons s more ih =>
    have hextend (b : Branch) (hs : b.segment = s) (hb : GrownAt planted path b) :
        GrownAt (planted ++ [⟨path ++ s :: more, words⟩]) path (b.extend words more) := by
      subst hs
      have hchildren := ih hb.2
      rw [List.append_assoc, List.singleton_append] at hchildren
      refine ⟨?_, hchildren⟩
      simp [Branch.extend, hb.1, wordsAt_concat]
    have hsegment (b : Branch) : (b.extend words more).segment = b.segment := rfl
    rw [grow_cons]
    exact h.atSegment hsegment (hsegment ⟨s, [], []⟩) hextend fun hs =>
      hextend _ rfl (grownAt_new hs)

/-! Planting all labels. -/

def valueWords (fs : Functions) (data : Json) (value : String) : List String :=
  match expand fs data value with
  | .ok text => (Caddyfile.tokens text).map (·.text)
  | .error _ => []

def planting (fs : Functions) (data : Json) (entry : String × String) : Planting :=
  ⟨segments entry.1.toList, valueWords fs data entry.2⟩

variable {fs : Functions} {data : Json}

theorem Grown.plantAll {labels : List (String × String)} {grown : List Branch}
    (h : Grown planted [] branches) (hp : plantAll fs data labels branches = .ok grown) :
    Grown (planted ++ labels.map (planting fs data)) [] grown := by
  induction labels generalizing planted branches with
  | nil =>
    obtain rfl : branches = grown := by simpa [Label.plantAll] using hp
    simpa using h
  | cons entry rest ih =>
    rw [Label.plantAll, plant] at hp
    cases hpath : path? entry.1 with
    | error fault =>
      rw [hpath] at hp
      cases hp
    | ok path =>
      obtain rfl := (path?_eq_ok_iff.1 hpath).2
      cases htext : expand fs data entry.2 with
      | error e =>
        rw [hpath, htext] at hp
        cases hp
      | ok text =>
        rw [hpath, htext] at hp
        have hwords : valueWords fs data entry.2 = (Caddyfile.tokens text).map (·.text) := by
          rw [valueWords, htext]
        have hrest := ih (h.grow _) hp
        rwa [List.nil_append, ← hwords, List.append_assoc] at hrest

def labelWords (fs : Functions) (data : Json) (labels : Keyed String) (path : List Segment) :
    List String :=
  match labels.get? (String.ofList (joined path)) with
  | some value => valueWords fs data value
  | none => []

def Begins (labels : Keyed String) (path : List Segment) : Prop :=
  ∃ entry ∈ labels.entries, path <+: entry.1.toList.splitOn '.'

/-- The blocks are those of the prefixes one segment longer than the path, each once. A block has the
name of the last segment, unless that is the only one, and the words of the label with the name of
the prefix; it stands at the place the segment asks for. Its children are such blocks again. -/
inductive Spells (fs : Functions) (data : Json) (labels : Keyed String) :
    List Segment → List Block → Prop
  | intro {path : List Segment} {blocks : List Block} (last : List Segment)
    (nodup : last.Nodup)
    (begins : ∀ s, s ∈ last ↔ Begins labels (path ++ [s]))
    (length : last.length = blocks.length)
    (reads : ∀ s b, (s, b) ∈ last.zip blocks → ∃ name, s.Reads name b.order ∧
      b.keys = (if path = [] then [] else [name]) ++ labelWords fs data labels (path ++ [s]))
    (below : ∀ s b, (s, b) ∈ last.zip blocks → Spells fs data labels (path ++ [s]) b.children) :
    Spells fs data labels path blocks

end ProxyFleet.Label
