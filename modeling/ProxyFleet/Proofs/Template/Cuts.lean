import ProxyFleet.Proofs.Template.Reading

/-!
Texts as they are addressed by bytes. A text can be cut at a position that is not beyond its end and
not within a character; any other cut stops a reading. Searches give the positions at which cuts are
made.
-/

namespace ProxyFleet.Template

/-- Why reading stops early: there is no cut at a position, a limit on the number of steps is
reached, or the template is at fault. -/
inductive Halt where
  | outside (position : Nat)
  | unfinished
  | fault (e : ParseError)
deriving DecidableEq, Repr

abbrev Run (α : Type) := Except Halt α

namespace Run

variable {α : Type}

def fail (fault : ParseFault) (position : Nat) : Run α := throw (.fault ⟨fault, position⟩)

def ofExcept : Except ParseError α → Run α
  | .ok a => pure a
  | .error e => throw (.fault e)

end Run

/-! Cuts. -/

/-- A text in two at a byte position, if that is not beyond its end and not within a character. -/
def cut? : List Char → Nat → Option (List Char × List Char)
  | cs, 0 => some ([], cs)
  | [], _ + 1 => none
  | c :: cs, n + 1 =>
    if c.utf8Size ≤ n + 1 then
      (cut? cs (n + 1 - c.utf8Size)).map fun (front, behind) => (c :: front, behind)
    else none

def sliceFrom (cs : List Char) (n : Nat) : Run (List Char) :=
  match cut? cs n with
  | some (_, behind) => pure behind
  | none => throw (.outside n)

def sliceTo (cs : List Char) (n : Nat) : Run (List Char) :=
  match cut? cs n with
  | some (front, _) => pure front
  | none => throw (.outside n)

/-! Searches, which give byte positions in the text that is searched. -/

def findText (part : List Char) : List Char → Option Nat
  | [] => none
  | c :: cs => if part.isPrefixOf (c :: cs) then some 0 else (findText part cs).map (c.utf8Size + ·)

def findChar (p : Char → Bool) : List Char → Option Nat
  | [] => none
  | c :: cs => if p c then some 0 else (findChar p cs).map (c.utf8Size + ·)

def spanSize (p : Char → Bool) (cs : List Char) : Nat :=
  (findChar (fun c => !p c) cs).getD (byteSize cs)

def blankSize (cs : List Char) : Nat := byteSize cs - byteSize (Text.trimStart cs)

def signBefore (test : List Char → Bool) (cs : List Char) : Run Bool :=
  if cs.head? = some '-' then do
    let behind ← sliceFrom cs 1
    pure (test behind)
  else pure false

/-! Bytes. -/

@[simp] theorem byteSize_nil : byteSize [] = 0 := rfl

@[simp] theorem byteSize_cons (c : Char) (cs : List Char) :
    byteSize (c :: cs) = c.utf8Size + byteSize cs := by
  rw [byteSize, byteSize, String.ofList_cons, String.utf8ByteSize_append,
    String.utf8ByteSize_singleton]

@[simp] theorem byteSize_append (cs ds : List Char) :
    byteSize (cs ++ ds) = byteSize cs + byteSize ds := by
  rw [byteSize, String.ofList_append, String.utf8ByteSize_append, byteSize, byteSize]

theorem byteSize_eq_zero_iff {cs : List Char} : byteSize cs = 0 ↔ cs = [] := by
  cases cs with
  | nil => simp
  | cons c cs =>
    have hsize := c.utf8Size_pos
    simp only [byteSize_cons, reduceCtorEq, iff_false]
    omega

theorem byteSize_dropWhile_lt_iff {p : Char → Bool} {cs : List Char} :
    byteSize (cs.dropWhile p) < byteSize cs ↔ (cs.dropWhile p).length < cs.length := by
  have hsize := congrArg byteSize (cs.takeWhile_append_dropWhile (p := p))
  have hlength := congrArg List.length (cs.takeWhile_append_dropWhile (p := p))
  have hnone : byteSize (cs.takeWhile p) = 0 ↔ (cs.takeWhile p).length = 0 := by
    rw [byteSize_eq_zero_iff, List.length_eq_zero_iff]
  rw [byteSize_append] at hsize
  rw [List.length_append] at hlength
  omega

/-! What is cut. -/

theorem cut?_append (front behind : List Char) :
    cut? (front ++ behind) (byteSize front) = some (front, behind) := by
  induction front with
  | nil => cases behind <;> rfl
  | cons c front ih =>
    have hsize := c.utf8Size_pos
    obtain ⟨n, hn⟩ : ∃ n, c.utf8Size + byteSize front = n + 1 :=
      ⟨c.utf8Size + byteSize front - 1, by omega⟩
    have hle : c.utf8Size ≤ n + 1 := by omega
    have hrest : n + 1 - c.utf8Size = byteSize front := by omega
    rw [List.cons_append, byteSize_cons, hn, cut?, if_pos hle, hrest, ih]
    rfl

theorem cut?_eq_some_iff {cs front behind : List Char} {n : Nat} :
    cut? cs n = some (front, behind) ↔ cs = front ++ behind ∧ byteSize front = n := by
  constructor
  · intro h
    fun_induction cut? cs n generalizing front with
    | case1 cs =>
      cases h
      exact ⟨rfl, rfl⟩
    | case2 => cases h
    | case3 c cs n hle ih =>
      obtain ⟨⟨rest, _⟩, hcut, he⟩ := Option.map_eq_some_iff.1 h
      cases he
      obtain ⟨rfl, hsize⟩ := ih hcut
      refine ⟨rfl, ?_⟩
      rw [byteSize_cons, hsize]
      omega
    | case4 => cases h
  · rintro ⟨rfl, rfl⟩
    exact cut?_append front behind

example : cut? "aä".toList 2 = none := by decide

theorem isSome_cut?_iff {s : String} {n : Nat} :
    (cut? s.toList n).isSome = true ↔ (⟨n⟩ : String.Pos.Raw).IsValid s := by
  rw [String.Pos.Raw.isValid_iff_exists_append, Option.isSome_iff_exists]
  constructor
  · rintro ⟨⟨front, behind⟩, hcut⟩
    obtain ⟨hs, hsize⟩ := cut?_eq_some_iff.1 hcut
    refine ⟨String.ofList front, String.ofList behind, ?_, ?_⟩
    · rw [← String.ofList_append, ← hs, String.ofList_toList]
    · rw [← hsize]
      rfl
  · rintro ⟨front, behind, rfl, hn⟩
    refine ⟨(front.toList, behind.toList), cut?_eq_some_iff.2 ⟨String.toList_append, ?_⟩⟩
    rw [byteSize, String.ofList_toList]
    exact (congrArg String.Pos.Raw.byteIdx hn).symm

theorem sliceFrom_append (front behind : List Char) :
    sliceFrom (front ++ behind) (byteSize front) = pure behind := by
  rw [sliceFrom, cut?_append]

theorem sliceTo_append (front behind : List Char) :
    sliceTo (front ++ behind) (byteSize front) = pure front := by
  rw [sliceTo, cut?_append]

theorem sliceFrom_cons {c : Char} (hc : c.utf8Size = 1) (cs : List Char) :
    sliceFrom (c :: cs) 1 = pure cs := by
  have h := sliceFrom_append [c] cs
  rwa [byteSize_cons, hc] at h

theorem signBefore_cons (test : List Char → Bool) (c : Char) (cs : List Char) :
    signBefore test (c :: cs) = pure (c = '-' && test cs) := by
  unfold signBefore
  by_cases hc : c = '-'
  · subst hc
    rw [List.head?_cons, if_pos rfl, sliceFrom_cons rfl]
    simp
  · simp [hc]

theorem signBefore_blank (cs : List Char) :
    signBefore (fun cs => cs.head?.any Text.isBlank) cs = pure (trimsLeft cs) := by
  cases cs with
  | nil => rfl
  | cons c cs =>
    rw [signBefore_cons]
    unfold trimsLeft
    split
    · simp_all
    · cases cs <;> simp_all

/-! What is found. -/

theorem findChar_eq (p : Char → Bool) (cs : List Char) :
    findChar p cs =
      if (cs.takeWhile (!p ·)).length < cs.length then some (byteSize (cs.takeWhile (!p ·)))
      else none := by
  induction cs with
  | nil => rfl
  | cons c cs ih =>
    rw [findChar, List.takeWhile_cons, ih]
    cases hp : p c with
    | true => simp
    | false =>
      simp only [Bool.not_false, if_true, List.length_cons, Nat.add_lt_add_iff_right, byteSize_cons,
        Bool.false_eq_true, if_false]
      split <;> rfl

theorem spanSize_eq (p : Char → Bool) (cs : List Char) :
    spanSize p cs = byteSize (cs.takeWhile p) := by
  have hp : (fun c => !!p c) = p := funext fun c => Bool.not_not (p c)
  rw [spanSize, findChar_eq, hp]
  split
  · rfl
  · next hlength =>
    have hall := List.takeWhile_prefix (l := cs) p
    rw [hall.eq_of_length_le (Nat.le_of_not_lt hlength)]
    rfl

theorem sliceTo_spanSize (p : Char → Bool) (cs : List Char) :
    sliceTo cs (spanSize p cs) = pure (cs.takeWhile p) := by
  have h := sliceTo_append (cs.takeWhile p) (cs.dropWhile p)
  rwa [List.takeWhile_append_dropWhile, ← spanSize_eq] at h

theorem blankSize_eq (cs : List Char) : blankSize cs = byteSize (cs.takeWhile Text.isBlank) := by
  have h := congrArg byteSize (Text.takeWhile_append_trimStart cs)
  rw [byteSize_append] at h
  unfold blankSize
  omega

theorem isPrefixOf_pair_iff {a b c : Char} {cs : List Char} :
    [a, b].isPrefixOf (c :: cs) = true ↔ c = a ∧ cs.head? = some b := by
  rw [List.isPrefixOf_iff_prefix, List.cons_prefix_cons, @eq_comm _ a c]
  cases cs with
  | nil => simp
  | cons d cs => simp [@eq_comm _ b d]

theorem findText_opening (cs : List Char) :
    findText ['\x7b', '\x7b'] cs = (cutAtOpen cs).map fun (text, _) => byteSize text := by
  fun_induction cutAtOpen cs with
  | case1 => rfl
  | case2 c => simp [findText]
  | case3 c d rest hc =>
    obtain ⟨rfl, rfl⟩ : c = '\x7b' ∧ d = '\x7b' := by simpa using hc
    simp [findText]
  | case4 c d rest hc ih =>
    have hprefix : ¬ ['\x7b', '\x7b'].isPrefixOf (c :: d :: rest) = true := by
      rw [isPrefixOf_pair_iff]
      simpa using hc
    rw [findText, if_neg hprefix, ih]
    simp [Function.comp_def]

/-- The end of a comment is found by bytes where it is found by characters. -/
theorem findText_comment (taken start : Nat) (cs : List Char) :
    (findText ['*', '/'] cs = none ∧
        commentLength.go taken cs start = .error ⟨.unclosedComment, start⟩) ∨
      ∃ front behind, cs = front ++ '*' :: '/' :: behind ∧
        findText ['*', '/'] cs = some (byteSize front) ∧
        commentLength.go taken cs start = .ok (taken + front.length + 2) := by
  fun_induction commentLength.go taken cs start with
  | case1 taken behind =>
    exact Or.inr ⟨[], behind, rfl, by simp [findText], rfl⟩
  | case2 taken c rest hne ih =>
    have hprefix : ¬ ['*', '/'].isPrefixOf (c :: rest) = true := by
      rw [isPrefixOf_pair_iff]
      rintro ⟨rfl, hhead⟩
      obtain ⟨tail, rfl⟩ := List.head?_eq_some_iff.1 hhead
      exact hne tail rfl rfl
    rw [findText, if_neg hprefix]
    obtain ⟨hfind, hgo⟩ | ⟨front, behind, rfl, hfind, hgo⟩ := ih
    · exact Or.inl ⟨by simp [hfind], hgo⟩
    · refine Or.inr ⟨c :: front, behind, rfl, by simp [hfind], ?_⟩
      rw [hgo, List.length_cons]
      congr 1
      omega
  | case3 taken => exact Or.inl ⟨rfl, rfl⟩

end ProxyFleet.Template
