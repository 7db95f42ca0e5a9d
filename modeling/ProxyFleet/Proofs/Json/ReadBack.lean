import ProxyFleet.Json.Parser
import ProxyFleet.Json.Printer

/-!
Documents without numbers are read back from their text: strings with whatever characters they have,
and lists and objects however deep.
-/

namespace ProxyFleet.Json

/-! Strings -/

theorem fourHex?_append {cs : List Char} {n : Nat} (h : fourHex? cs = some (n, []))
    (rest : List Char) : fourHex? (cs ++ rest) = some (n, rest) := by
  unfold fourHex? at h
  split at h
  · simp only [Option.bind_eq_bind, Option.bind_eq_some_iff, Option.some.injEq, Prod.mk.injEq] at h
    obtain ⟨a, ha, b, hb, c, hc, d, hd, rfl, rfl⟩ := h
    simp only [List.cons_append, List.nil_append, fourHex?, ha, hb, hc, hd, Option.bind_eq_bind,
      Option.bind_some]
  · cases h

def controlDigits (n : Nat) : List Char :=
  '0' :: '0' :: ((if n < 0x10 then "0" else "") ++ Text.hex n).toList

theorem fourHex?_controlDigits : ∀ n < 0x20, fourHex? (controlDigits n) = some (n, []) := by
  decide

theorem stringBody?_control {c : Char} (h : c.toNat < 0x20) (fuel : Nat) (read rest : List Char) :
    stringBody? (fuel + 1) (some read) ('\\' :: 'u' :: (controlDigits c.toNat ++ rest)) =
      stringBody? fuel (some (c :: read)) rest := by
  have hescape : unicodeEscape? (controlDigits c.toNat ++ rest) = some (some c, rest) := by
    rw [unicodeEscape?, fourHex?_append (fourHex?_controlDigits _ h)]
    simp only [Option.bind_eq_bind, Option.bind_some]
    rw [if_pos (Or.inl (by omega)), Char.ofNat_toNat]
  rw [stringBody?, hescape]
  rfl

theorem stringBody?_bare {c : Char} (hquote : c ≠ '"') (hbackslash : c ≠ '\\')
    (hcontrol : ¬c.toNat < 0x20) (fuel : Nat) (read rest : List Char) :
    stringBody? (fuel + 1) (some read) (c :: rest) = stringBody? fuel (some (c :: read)) rest := by
  rw [stringBody?, if_neg hcontrol]
  · rfl
  · exact hquote
  · exact fun _ h _ => hbackslash h
  · exact fun _ _ h _ => hbackslash h

/-- A character of a string is read as it was before it was written. -/
theorem stringBody?_escapedChar (c : Char) (fuel : Nat) (read rest : List Char) :
    stringBody? (fuel + 1) (some read) ((escapedChar c).toList ++ rest) =
      stringBody? fuel (some (c :: read)) rest := by
  have hcode {n : Nat} (h : c.toNat = n) : c = Char.ofNat n := by rw [← h, Char.ofNat_toNat]
  unfold escapedChar
  -- five escapes of one letter, two more by their codes, and the control characters in digits
  split
  · rfl
  · rfl
  · rfl
  · rfl
  · rfl
  · next hquote hbackslash _ _ _ =>
    split
    · next h =>
      rw [hcode h]
      rfl
    · split
      · next h =>
        rw [hcode h]
        rfl
      · split
        · next hcontrol =>
          have htext : "\\u00".toList = ['\\', 'u', '0', '0'] := rfl
          rw [String.append_assoc, String.toList_append, htext]
          exact stringBody?_control hcontrol fuel read rest
        · next hcontrol =>
          rw [Char.toString_eq_singleton, String.toList_singleton, List.singleton_append]
          exact stringBody?_bare hquote hbackslash hcontrol fuel read rest

def escapedChars (cs : List Char) : List Char :=
  cs.flatMap fun c => (escapedChar c).toList

theorem toList_quotedText (s : String) :
    (quotedText s).toList = '"' :: (escapedChars s.toList ++ ['"']) := by
  have hquote : "\"".toList = ['"'] := rfl
  rw [quotedText, String.toList_append, String.toList_append, String.toList_join, hquote,
    List.flatMap_map, List.singleton_append, List.cons_append]
  rfl

theorem length_escapedChar_pos (c : Char) : 0 < (escapedChar c).toList.length := by
  unfold escapedChar
  repeat' split
  all_goals simp

theorem length_le_length_escapedChars (cs : List Char) : cs.length ≤ (escapedChars cs).length := by
  induction cs with
  | nil => exact Nat.le_refl 0
  | cons c cs ih =>
    have hc := length_escapedChar_pos c
    rw [escapedChars, List.flatMap_cons, List.length_append, ← escapedChars, List.length_cons]
    omega

theorem stringBody?_escapedChars (cs read rest : List Char) {fuel : Nat} (h : cs.length < fuel) :
    stringBody? fuel (some read) (escapedChars cs ++ '"' :: rest) =
      some (some (String.ofList (read.reverse ++ cs)), rest) := by
  induction cs generalizing read fuel with
  | nil =>
    obtain ⟨fuel, rfl⟩ := Nat.exists_eq_succ_of_ne_zero (Nat.ne_of_gt h)
    rw [List.append_nil]
    rfl
  | cons c cs ih =>
    obtain ⟨fuel, rfl⟩ := Nat.exists_eq_succ_of_ne_zero (Nat.ne_of_gt (Nat.zero_lt_of_lt h))
    rw [escapedChars, List.flatMap_cons, List.append_assoc, stringBody?_escapedChar,
      ← escapedChars, ih _ (Nat.lt_of_succ_lt_succ h), List.reverse_cons, List.append_assoc,
      List.singleton_append]

theorem string?_escapedChars (s : String) (rest : List Char) :
    string? (escapedChars s.toList ++ '"' :: rest) = some (some s, rest) := by
  have hlength := length_le_length_escapedChars s.toList
  rw [string?, stringBody?_escapedChars _ _ _ (by simp; omega), List.reverse_nil, List.nil_append,
    String.ofList_toList]

/-! Documents -/

/-- A document of truth values, strings, lists and objects, without numbers and unreadable parts. -/
inductive Plain : Json → Prop
  | null : Plain .null
  | bool (b : Bool) : Plain (.bool b)
  | str (s : String) : Plain (.str s)
  | arr {items : List Json} (h : ∀ item ∈ items, Plain item) : Plain (.arr items)
  | obj {members : List (String × Json)} (h : ∀ m ∈ members, Plain m.2) : Plain (.obj members)

theorem itemTexts_eq_map (items : List Json) : itemTexts items = items.map text := by
  induction items with
  | nil => rfl
  | cons item rest ih => rw [itemTexts, ih, List.map_cons]

def memberText (m : String × Json) : String := quotedText m.1 ++ ":" ++ text m.2

theorem memberTexts_eq_map (members : List (String × Json)) :
    memberTexts members = members.map memberText := by
  induction members with
  | nil => rfl
  | cons m rest ih => rw [memberTexts, ih, List.map_cons, memberText]

/-- The document is read back from the front of its text. -/
def ReadBack (json : Json) : Prop :=
  ∀ (fuel : Nat) (rest : List Char), json.text.toList.length ≤ fuel →
    value? fuel (json.text.toList ++ rest) = some (json, rest)

/-- No blank and no closing bracket comes first in a text. -/
theorem Plain.exists_front {json : Json} (h : Plain json) :
    ∃ c cs, json.text.toList = c :: cs ∧ isSpace c = false ∧ c ≠ ']' := by
  cases h with
  | null => exact ⟨_, _, rfl, rfl, by decide⟩
  | bool b => cases b <;> exact ⟨_, _, rfl, rfl, by decide⟩
  | str s =>
    rw [text, toList_quotedText]
    exact ⟨_, _, rfl, rfl, by decide⟩
  | arr h =>
    rw [text, String.toList_append, String.toList_append]
    exact ⟨_, _, rfl, rfl, by decide⟩
  | obj h =>
    rw [text, String.toList_append, String.toList_append]
    exact ⟨_, _, rfl, rfl, by decide⟩

theorem skipSpace_cons {c : Char} (h : isSpace c = false) (cs : List Char) :
    skipSpace (c :: cs) = c :: cs := by
  rw [skipSpace, List.dropWhile_cons_of_neg (by simp [h])]

theorem toList_intercalate_cons_cons (t u : String) (ts : List String) :
    (String.intercalate "," (t :: u :: ts)).toList =
      t.toList ++ ',' :: (String.intercalate "," (u :: ts)).toList := by
  have hcomma : ",".toList = [','] := rfl
  rw [String.intercalate_cons_cons, String.toList_append, String.toList_append, hcomma,
    List.append_assoc, List.singleton_append]

theorem items?_text {items : List Json} (hne : items ≠ []) (h : ∀ item ∈ items, ReadBack item)
    (fuel : Nat) (rest : List Char)
    (hfuel : (String.intercalate "," (items.map text)).toList.length < fuel) :
    items? fuel ((String.intercalate "," (items.map text)).toList ++ ']' :: rest) =
      some (items, rest) := by
  induction items generalizing fuel with
  | nil => exact absurd rfl hne
  | cons item more ih =>
    obtain ⟨hitem, hmore⟩ := List.forall_mem_cons.1 h
    obtain ⟨fuel, rfl⟩ := Nat.exists_eq_succ_of_ne_zero (Nat.ne_of_gt (Nat.zero_lt_of_lt hfuel))
    -- the last item stands before the bracket, all others before a comma
    cases more with
    | nil =>
      rw [List.map_singleton, String.intercalate_singleton] at hfuel ⊢
      rw [items?, hitem _ _ (Nat.le_of_lt_succ hfuel)]
      simp only [Option.bind_eq_bind, Option.bind_some, skipSpace_cons (c := ']') rfl]
    | cons next more =>
      rw [List.map_cons, List.map_cons, toList_intercalate_cons_cons, ← List.map_cons] at hfuel ⊢
      rw [List.length_append, List.length_cons] at hfuel
      rw [List.append_assoc, List.cons_append, items?, hitem _ _ (by omega)]
      simp only [Option.bind_eq_bind, Option.bind_some, skipSpace_cons (c := ',') rfl]
      rw [ih (List.cons_ne_nil _ _) hmore _ (by omega), Option.bind_some]

theorem toList_memberText (m : String × Json) :
    (memberText m).toList =
      '"' :: (escapedChars m.1.toList ++ '"' :: ':' :: m.2.text.toList) := by
  have hcolon : ":".toList = [':'] := rfl
  simp only [memberText, String.toList_append, toList_quotedText, hcolon, List.cons_append,
    List.append_assoc, List.nil_append]

/-- A member is read at the front of an object, whatever comes behind it. -/
theorem members?_memberText {m : String × Json} (h : ReadBack m.2) {fuel : Nat}
    (hfuel : (memberText m).toList.length ≤ fuel) (rest : List Char) :
    members? (fuel + 1) ((memberText m).toList ++ rest) =
      match skipSpace rest with
      | '\x7d' :: rest => some ([(some m.1, m.2)], rest)
      | ',' :: rest => do
        let (members, rest) ← members? fuel rest
        some ((some m.1, m.2) :: members, rest)
      | _ => none := by
  rw [toList_memberText] at hfuel ⊢
  simp only [List.length_cons, List.length_append] at hfuel
  simp only [List.cons_append, List.append_assoc]
  rw [members?, skipSpace_cons rfl]
  simp only [string?_escapedChars, Option.bind_eq_bind, Option.bind_some,
    skipSpace_cons (c := ':') rfl]
  rw [h _ _ (by omega)]
  rfl

theorem members?_text {members : List (String × Json)} (hne : members ≠ [])
    (h : ∀ m ∈ members, ReadBack m.2) (fuel : Nat) (rest : List Char)
    (hfuel : (String.intercalate "," (members.map memberText)).toList.length < fuel) :
    members? fuel ((String.intercalate "," (members.map memberText)).toList ++ '\x7d' :: rest) =
      some (members.map fun m => (some m.1, m.2), rest) := by
  induction members generalizing fuel with
  | nil => exact absurd rfl hne
  | cons m more ih =>
    obtain ⟨hm, hmore⟩ := List.forall_mem_cons.1 h
    obtain ⟨fuel, rfl⟩ := Nat.exists_eq_succ_of_ne_zero (Nat.ne_of_gt (Nat.zero_lt_of_lt hfuel))
    cases more with
    | nil =>
      rw [List.map_singleton, String.intercalate_singleton] at hfuel ⊢
      rw [members?_memberText hm (Nat.le_of_lt_succ hfuel), skipSpace_cons rfl]
      rfl
    | cons next more =>
      rw [List.map_cons, List.map_cons, toList_intercalate_cons_cons, ← List.map_cons] at hfuel ⊢
      rw [List.length_append, List.length_cons] at hfuel
      have hrest := ih (List.cons_ne_nil _ _) hmore fuel (by omega)
      rw [List.append_assoc, List.cons_append, members?_memberText hm (by omega),
        skipSpace_cons rfl]
      simp only [hrest, Option.bind_eq_bind, Option.bind_some]
      rfl

theorem objectOf_readable (members : List (String × Json)) :
    objectOf (members.map fun m => (some m.1, m.2)) = .obj members := by
  have hnames : (members.map fun m => (some m.1, m.2)).mapM
      (fun m : Option String × Json => m.1.map (·, m.2)) = some members := by
    induction members with
    | nil => rfl
    | cons m rest ih => simp [ih]
  rw [objectOf, hnames]

/-- The texts of items begin as that of the first. -/
theorem exists_front_intercalate {t : String} {c : Char} {cs : List Char} (h : t.toList = c :: cs)
    (ts : List String) : ∃ ds, (String.intercalate "," (t :: ts)).toList = c :: ds := by
  cases ts with
  | nil => exact ⟨cs, by rw [String.intercalate_singleton, h]⟩
  | cons u us => exact ⟨_, by rw [toList_intercalate_cons_cons, h, List.cons_append]⟩

theorem readBack_arr {items : List Json} (hplain : ∀ item ∈ items, Plain item)
    (h : ∀ item ∈ items, ReadBack item) : ReadBack (.arr items) := by
  intro fuel rest hfuel
  have hopen : "[".toList = ['['] := rfl
  have hclose : "]".toList = [']'] := rfl
  rw [text, itemTexts_eq_map, String.toList_append, String.toList_append, hopen, hclose,
    List.singleton_append, List.cons_append] at hfuel ⊢
  simp only [List.length_cons, List.length_append, List.length_nil] at hfuel
  obtain ⟨fuel, rfl⟩ := Nat.exists_eq_succ_of_ne_zero (Nat.ne_zero_of_lt hfuel)
  rw [List.cons_append, List.append_assoc, List.singleton_append, value?, skipSpace_cons rfl]
  cases items with
  | nil => rfl
  | cons item more =>
    -- the reader looks for the bracket of an empty list first, which no item begins with
    obtain ⟨c, cs, hfront, hspace, hc⟩ := (hplain item List.mem_cons_self).exists_front
    obtain ⟨ds, hds⟩ := exists_front_intercalate hfront (more.map text)
    have hitems := items?_text (List.cons_ne_nil item more) h fuel rest (by omega)
    rw [List.map_cons, hds, List.cons_append] at hitems ⊢
    simp only [skipSpace_cons hspace, hitems]
    split
    · next heq => exact absurd (List.cons.inj heq).1 hc
    · rfl

theorem readBack_obj {members : List (String × Json)} (h : ∀ m ∈ members, ReadBack m.2) :
    ReadBack (.obj members) := by
  intro fuel rest hfuel
  have hopen : "\x7b".toList = ['\x7b'] := rfl
  have hclose : "\x7d".toList = ['\x7d'] := rfl
  rw [text, memberTexts_eq_map, String.toList_append, String.toList_append, hopen, hclose,
    List.singleton_append, List.cons_append] at hfuel ⊢
  simp only [List.length_cons, List.length_append, List.length_nil] at hfuel
  obtain ⟨fuel, rfl⟩ := Nat.exists_eq_succ_of_ne_zero (Nat.ne_zero_of_lt hfuel)
  rw [List.cons_append, List.append_assoc, List.singleton_append, value?, skipSpace_cons rfl]
  cases members with
  | nil => rfl
  | cons m more =>
    obtain ⟨ds, hds⟩ := exists_front_intercalate (toList_memberText m) (more.map memberText)
    have hmembers := members?_text (List.cons_ne_nil m more) h fuel rest (by omega)
    rw [List.map_cons, hds, List.cons_append] at hmembers ⊢
    simp only [skipSpace_cons (c := '"') rfl, hmembers, Option.map_some, objectOf_readable]
    rfl

/-- Whatever follows a document without numbers, it is read back from its text. -/
theorem Plain.readBack {json : Json} (h : Plain json) : ReadBack json := by
  induction h with
  | null =>
    intro fuel rest hfuel
    obtain ⟨fuel, rfl⟩ := Nat.exists_eq_succ_of_ne_zero (Nat.ne_zero_of_lt hfuel)
    rfl
  | bool b =>
    intro fuel rest hfuel
    cases b with
    | false =>
      obtain ⟨fuel, rfl⟩ := Nat.exists_eq_succ_of_ne_zero (Nat.ne_zero_of_lt hfuel)
      rfl
    | true =>
      obtain ⟨fuel, rfl⟩ := Nat.exists_eq_succ_of_ne_zero (Nat.ne_zero_of_lt hfuel)
      rfl
  | str s =>
    intro fuel rest hfuel
    rw [text, toList_quotedText] at hfuel ⊢
    obtain ⟨fuel, rfl⟩ := Nat.exists_eq_succ_of_ne_zero (Nat.ne_zero_of_lt hfuel)
    rw [List.cons_append, List.append_assoc, List.singleton_append, value?, skipSpace_cons rfl]
    simp only [string?_escapedChars]
    rfl
  | arr h ih => exact readBack_arr h ih
  | obj h ih => exact readBack_obj ih

theorem Plain.parse?_text {json : Json} (h : Plain json) : parse? json.text = some json := by
  have hread := h.readBack (2 * json.text.toList.length + 2) [] (by omega)
  rw [List.append_nil] at hread
  rw [parse?]
  simp only [hread]
  rfl

end ProxyFleet.Json
