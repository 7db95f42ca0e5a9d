import Mathlib.Data.List.TakeWhile
import ProxyFleet.Net.Url

/-!
The path of a URL as a place in a file system. A URL keeps the names that a path leads through if it
can write them as they are and takes none of them for dots.
-/

namespace ProxyFleet.Net.Url

/-! Segments between slashes. -/

/-- What stands between the separators is all but the separators. -/
theorem exists_mem_splitOn_iff {a c : Char} {cs : List Char} :
    (∃ s ∈ cs.splitOn a, c ∈ s) ↔ c ∈ cs ∧ c ≠ a := by
  induction cs with
  | nil => simp
  | cons d cs ih =>
    rw [List.splitOn_cons_eq_if_modifyHead]
    split
    · next hd =>
      obtain rfl := beq_iff_eq.1 hd
      simp only [List.mem_cons, or_and_right, exists_or, exists_eq_left, List.not_mem_nil, false_or,
        ih]
      exact ⟨Or.inr, fun h => h.resolve_left fun he => he.2 he.1⟩
    · next hd =>
      have hne : d ≠ a := by simpa using hd
      obtain ⟨s, rest, hs⟩ := List.exists_cons_of_ne_nil (List.splitOn_ne_nil a cs)
      rw [hs] at ih ⊢
      simp only [List.modifyHead_cons, List.mem_cons, or_and_right, exists_or, exists_eq_left,
        or_assoc] at ih ⊢
      rw [ih]
      refine or_congr_left ⟨fun he => ⟨he, ?_⟩, And.left⟩
      rwa [he]

theorem segments_eq_splitOn (cs : List Char) : segments false cs = cs.splitOn '/' := by
  simp only [segments, Bool.false_and, Bool.or_false, List.splitOn_eq_splitOnP]
  rfl

/-- A name that leads on. Nothing, and a single dot, stay where they are. -/
def isStep (s : List Char) : Bool := s ≠ [] && s ≠ ['.']

def components (path : List Char) : List (List Char) := (path.splitOn '/').filter isStep

theorem components_slash (path : List Char) : components ('/' :: path) = components path := by
  rw [components, List.splitOn_cons_eq_if_modifyHead]
  rfl

theorem components_intercalate {names : List (List Char)} (h : ∀ s ∈ names, '/' ∉ s) :
    components (['/'].intercalate names) = names.filter isStep := by
  cases names with
  | nil => rfl
  | cons s rest => rw [components, List.splitOn_intercalate '/' h (by simp)]

/-! Escaped names. -/

theorem mem_escape {plain : Char → Bool} {s : List Char} {c : Char} (h : c ∈ escape plain s) :
    c ∈ s ∧ plain c = true ∨ c ∈ "%0123456789ABCDEF".toList := by
  have hhex : ∀ n < 16, upperHex n ∈ "%0123456789ABCDEF".toList := by decide
  obtain ⟨d, hd, hc⟩ := List.mem_flatMap.1 h
  split at hc
  · next hplain =>
    obtain rfl := List.mem_singleton.1 hc
    exact Or.inl ⟨hd, hplain⟩
  · obtain ⟨b, -, hb⟩ := List.mem_flatMap.1 hc
    have hbyte := b.toNat_lt
    right
    simp only [escapeByte, List.mem_cons, List.not_mem_nil, or_false] at hb
    obtain rfl | rfl | rfl := hb
    · decide
    · exact hhex _ (by omega)
    · exact hhex _ (by omega)

theorem escape_of_plain {plain : Char → Bool} {s : List Char} (h : ∀ c ∈ s, plain c = true) :
    escape plain s = s := by
  induction s with
  | nil => rfl
  | cons c s ih =>
    obtain ⟨hc, hs⟩ := List.forall_mem_cons.1 h
    have hrest := ih hs
    simp only [escape] at hrest ⊢
    rw [List.flatMap_cons, hrest, if_pos hc, List.singleton_append]

/-! Names that a URL keeps. -/

/-- A name that can stand in the path of a URL: nothing in it has to be escaped, and it is not taken
for dots. -/
structure Settled (s : List Char) : Prop where
  plain : ∀ c ∈ s, isPlainInPath c = true
  name : '/' ∉ s
  notOne : dots s ≠ some 1
  notTwo : dots s ≠ some 2

theorem settled_nil : Settled [] := ⟨nofun, nofun, by decide, by decide⟩

theorem settled_escape {s : List Char} (hs : '/' ∉ s) (h1 : dots (escape isPlainInPath s) ≠ some 1)
    (h2 : dots (escape isPlainInPath s) ≠ some 2) : Settled (escape isPlainInPath s) := by
  have hplain : ∀ c ∈ "%0123456789ABCDEF".toList, isPlainInPath c = true :=
    List.all_eq_true.1 (by decide)
  refine ⟨fun c hc => ?_, fun hslash => ?_, h1, h2⟩
  · rcases mem_escape hc with ⟨-, h⟩ | h
    · exact h
    · exact hplain c h
  · rcases mem_escape hslash with ⟨h, -⟩ | h
    · exact hs h
    · exact absurd h (by decide)

theorem stepBack_sublist (done : List (List Char)) : (stepBack done).Sublist done := by
  cases done with
  | nil => exact List.Sublist.refl _
  | cons s rest =>
    rw [stepBack]
    split
    · exact List.Sublist.refl _
    · exact List.sublist_cons_self s rest

/-- Whatever the segments are, the names that come out of them are settled. -/
theorem settled_of_mem_resolve {done segs : List (List Char)} (hdone : ∀ s ∈ done, Settled s)
    (hsegs : ∀ s ∈ segs, '/' ∉ s) : ∀ s ∈ resolve done segs, Settled s := by
  induction segs generalizing done with
  | nil => exact hdone
  | cons s rest ih =>
    obtain ⟨hs, hrest⟩ := List.forall_mem_cons.1 hsegs
    have hback : ∀ t ∈ stepBack done, Settled t :=
      fun t ht => hdone t ((stepBack_sublist done).subset ht)
    rw [resolve]
    split
    · refine ih ?_ hrest
      split
      · exact List.forall_mem_cons.2 ⟨settled_nil, hdone⟩
      · exact hdone
    · refine ih ?_ hrest
      split
      · exact List.forall_mem_cons.2 ⟨settled_nil, hback⟩
      · exact hback
    · next h1 h2 => exact ih (List.forall_mem_cons.2 ⟨settled_escape hs h1 h2, hdone⟩) hrest

/-- A segment that a URL keeps, or that leads nowhere. -/
structure Kept (s : List Char) : Prop where
  plain : ∀ c ∈ s, isPlainInPath c = true
  notTwo : dots s ≠ some 2
  one : dots s = some 1 → s = ['.']

instance : DecidablePred Kept := fun s =>
  decidable_of_iff
    (s.all isPlainInPath = true ∧ dots s ≠ some 2 ∧ (dots s = some 1 → s = ['.']))
    ⟨fun ⟨hplain, htwo, hone⟩ => ⟨List.all_eq_true.1 hplain, htwo, hone⟩,
      fun h => ⟨List.all_eq_true.2 h.plain, h.notTwo, h.one⟩⟩

theorem Settled.kept {s : List Char} (h : Settled s) : Kept s :=
  ⟨h.plain, h.notTwo, fun hdots => absurd hdots h.notOne⟩

theorem kept_of_isStep_eq_false {s : List Char} (h : isStep s = false) : Kept s := by
  have hs : s = [] ∨ s = ['.'] := by
    simpa [isStep, Decidable.or_iff_not_imp_left] using h
  obtain rfl | rfl := hs
  · exact settled_nil.kept
  · exact ⟨List.forall_mem_singleton.2 (by decide), by decide, fun _ => rfl⟩

theorem isPlainInPath_of_kept {cs : List Char} (h : ∀ s ∈ cs.splitOn '/', Kept s) :
    ∀ c ∈ cs, isPlainInPath c = true := by
  intro c hc
  by_cases hslash : c = '/'
  · subst hslash
    decide
  · obtain ⟨s, hs, hcs⟩ := exists_mem_splitOn_iff.2 ⟨hc, hslash⟩
    exact (h s hs).plain c hcs

theorem filter_resolve {done segs : List (List Char)} (h : ∀ s ∈ segs, Kept s) :
    (resolve done segs).reverse.filter isStep =
      done.reverse.filter isStep ++ segs.filter isStep := by
  induction segs generalizing done with
  | nil => rw [resolve, List.filter_nil, List.append_nil]
  | cons s rest ih =>
    obtain ⟨hs, hrest⟩ := List.forall_mem_cons.1 h
    rw [resolve, escape_of_plain hs.plain]
    split
    · next hone =>
      rw [ih hrest, hs.one hone]
      split
      · simp [isStep]
      · simp [isStep]
    · next htwo => exact absurd htwo hs.notTwo
    · rw [ih hrest, List.reverse_cons, List.filter_append, List.append_assoc, ← List.filter_append]
      rfl

theorem components_rooted (cs : List Char) :
    components (rooted false cs).toList =
        (resolve [] (cs.splitOn '/')).reverse.filter isStep ∧
      ∀ s ∈ components (rooted false cs).toList, Settled s := by
  have hsegs : ∀ t ∈ cs.splitOn '/', '/' ∉ t := by
    intro t ht hslash
    exact (exists_mem_splitOn_iff.1 ⟨t, ht, hslash⟩).2 rfl
  have hsettled : ∀ t ∈ (resolve [] (cs.splitOn '/')).reverse, Settled t := fun t ht =>
    settled_of_mem_resolve (List.forall_mem_nil _) hsegs t (List.mem_reverse.1 ht)
  rw [rooted, segments_eq_splitOn, String.toList_ofList, components_slash,
    components_intercalate fun t ht => (hsettled t ht).name]
  exact ⟨rfl, fun t ht => hsettled t (List.mem_filter.1 ht).1⟩

/-- If a path has the names of one in a URL, its segments are all kept. -/
theorem kept_of_components_eq {cs path : List Char}
    (h : components (rooted false cs).toList = components path) :
    ∀ s ∈ path.splitOn '/', Kept s := by
  intro s hs
  cases hstep : isStep s with
  | false => exact kept_of_isStep_eq_false hstep
  | true =>
    have hmem : s ∈ components path := List.mem_filter.2 ⟨hs, hstep⟩
    rw [← h] at hmem
    exact ((components_rooted cs).2 s hmem).kept

/-- A path whose segments are all kept leads through the same names in a URL. -/
theorem components_rooted_of_kept {cs : List Char} (h : ∀ s ∈ cs.splitOn '/', Kept s) :
    components (rooted false cs).toList = components cs := by
  rw [(components_rooted cs).1, filter_resolve h]
  rfl

/-! Texts that URLs are read from. -/

/-- What is behind the space is neither trimmed off a text nor taken out of it. -/
theorem kept_of_lt {c : Char} (h : ' ' < c) :
    decide (c ≤ ' ') = false ∧ (c ≠ '\t' && c ≠ '\n' && c ≠ '\r') = true := by
  have hcontrol {d : Char} (hd : d < ' ') : c ≠ d := by
    rintro rfl
    exact Char.lt_irrefl c (Char.lt_trans hd h)
  refine ⟨decide_eq_false (Char.not_le.2 h), ?_⟩
  simp [hcontrol (d := '\t') (by decide), hcontrol (d := '\n') (by decide),
    hcontrol (d := '\r') (by decide)]

theorem trim_of_lt {c : Char} (h : ' ' < c) (cs : List Char) :
    (c :: cs).dropWhile (· ≤ ' ') = c :: cs :=
  List.dropWhile_cons_of_neg (by simp [(kept_of_lt h).1])

theorem filter_of_lt {cs : List Char} (h : ∀ c ∈ cs, ' ' < c) :
    cs.filter (fun c => c ≠ '\t' && c ≠ '\n' && c ≠ '\r') = cs :=
  List.filter_eq_self.2 fun c hc => (kept_of_lt (h c hc)).2

/-- Of a text and a slash behind it, blanks at the end leave the slash. -/
theorem exists_trim_slash (front cs : List Char) :
    ∃ more, (front ++ '/' :: cs).reverse.dropWhile (· ≤ ' ') = more ++ '/' :: front.reverse ∧
      ((∀ c ∈ cs, ' ' < c) → more = cs.reverse) := by
  have hreverse : (front ++ '/' :: cs).reverse = cs.reverse ++ '/' :: front.reverse := by
    rw [List.reverse_append, List.reverse_cons, List.append_assoc, List.singleton_append]
  rw [hreverse, List.dropWhile_append, trim_of_lt (by decide)]
  refine ⟨cs.reverse.dropWhile (· ≤ ' '), ?_, fun hcs => ?_⟩
  · split
    · next hempty => rw [List.isEmpty_iff.1 hempty, List.nil_append]
    · rfl
  · cases hmore : cs.reverse with
    | nil => rfl
    | cons c more =>
      have hc : c ∈ cs.reverse := by
        rw [hmore]
        exact List.mem_cons_self
      exact trim_of_lt (hcs c (List.mem_reverse.1 hc)) more

/-- Blanks behind a slash do not reach what stands in front of it. -/
theorem exists_cleaned_slash {text : String} {front cs : List Char}
    (htext : text.toList = front ++ '/' :: cs) (hfront : ∀ c ∈ front, ' ' < c) :
    ∃ rest, cleaned text = front ++ '/' :: rest ∧ ((∀ c ∈ cs, ' ' < c) → rest = cs) := by
  have hstart : text.toList.dropWhile (· ≤ ' ') = front ++ '/' :: cs := by
    rw [htext]
    cases front with
    | nil => exact trim_of_lt (by decide) cs
    | cons c front => exact trim_of_lt (hfront c List.mem_cons_self) _
  obtain ⟨more, hmore, hall⟩ := exists_trim_slash front cs
  refine ⟨more.reverse.filter fun c => c ≠ '\t' && c ≠ '\n' && c ≠ '\r', ?_, fun hcs => ?_⟩
  · have hend : ((front ++ '/' :: cs).reverse.dropWhile (· ≤ ' ')).reverse =
        front ++ '/' :: more.reverse := by
      rw [hmore]
      simp
    simp only [cleaned, hstart, hend, List.filter_append, filter_of_lt hfront]
    rfl
  · rw [hall hcs, List.reverse_reverse]
    exact filter_of_lt hcs

theorem lt_of_isPlainInPath {c : Char} (h : isPlainInPath c = true) :
    ' ' < c ∧ c ≠ '?' ∧ c ≠ '#' := by
  have hne {d : Char} (hd : isPlainInPath d = false) : c ≠ d :=
    ne_of_apply_ne isPlainInPath (by simp [h, hd])
  refine ⟨?_, hne (by decide), hne (by decide)⟩
  have hcontrol : ¬ c.toNat < 0x20 := by
    intro hlow
    simp [isPlainInPath, Host.isControl, hlow] at h
  have hspace : c.toNat ≠ ' '.toNat := fun he => hne (d := ' ') (by decide) (Char.toNat_inj.1 he)
  have hcode : ' '.toNat = 0x20 := by decide
  show ' '.toNat < c.toNat
  omega

theorem exists_parse_unix {path : String} {cs : List Char} (hpath : path.toList = '/' :: cs) :
    ∃ rest, parse ("unix://" ++ path) = .ok ⟨"unix", "", none, rooted false (beforeQuery rest)⟩ ∧
      ((∀ c ∈ cs, isPlainInPath c = true) → beforeQuery rest = cs) := by
  have htext : ("unix://" ++ path).toList = "unix://".toList ++ '/' :: cs := by
    rw [String.toList_append, hpath]
  obtain ⟨rest, hcleaned, hrest⟩ := exists_cleaned_slash htext (by simp)
  refine ⟨rest, ?_, fun hplain => ?_⟩
  · rw [parse, hcleaned]
    rfl
  · rw [hrest fun c hc => (lt_of_isPlainInPath (hplain c hc)).1]
    refine List.takeWhile_eq_self_iff.2 fun c hc => ?_
    obtain ⟨-, hquery, hfragment⟩ := lt_of_isPlainInPath (hplain c hc)
    simp [hquery, hfragment]

end ProxyFleet.Net.Url
