import ProxyFleet.Net.Address
import ProxyFleet.Text.Blank

/-!
How addresses look. They are written with digits, letters up to F, points and colons only, and no
text stands for an address of both versions; so what a port is joined to with a colon can be split
again only if it is not a version 6 address or has brackets around it.
-/

namespace ProxyFleet.Net

open Number (digitValue? isDigitIn number?)

def isAddressChar (c : Char) : Bool := (digitValue? c).isSome || c = '.' || c = ':'

theorem isAddressChar_of_isDigitIn {base : Nat} {c : Char} (h : isDigitIn base c = true) :
    isAddressChar c = true := by
  cases hc : digitValue? c with
  | none => simp [isDigitIn, hc] at h
  | some n => simp [isAddressChar, hc]

theorem isAddressChar_of_isDigit {c : Char} (h : c.isDigit = true) : isAddressChar c = true := by
  have hdecimal : '0' ≤ c ∧ c ≤ '9' := by
    simpa [Char.isDigit, Char.le_def] using h
  simp [isAddressChar, digitValue?, hdecimal]

/-- Addresses are written between the point and the letter F, and without a backtick. -/
theorem toNat_of_isAddressChar {c : Char} (h : isAddressChar c = true) :
    46 ≤ c.toNat ∧ c.toNat ≤ 102 ∧ c.toNat ≠ 96 := by
  have hle (a b : Char) : a ≤ b ↔ a.toNat ≤ b.toNat := Iff.rfl
  simp only [isAddressChar, digitValue?, hle, Bool.or_eq_true, decide_eq_true_eq] at h
  obtain (h | rfl) | rfl := h
  · have hcodes : '0'.toNat = 48 ∧ '9'.toNat = 57 ∧ 'a'.toNat = 97 ∧ 'f'.toNat = 102 ∧
        'A'.toNat = 65 ∧ 'F'.toNat = 70 := by decide
    obtain ⟨h0, h9, ha, hf, hA, hF⟩ := hcodes
    rw [h0, h9, ha, hf, hA, hF] at h
    split at h
    · omega
    · split at h
      · omega
      · split at h
        · omega
        · cases h
  · decide
  · decide

theorem isBlank_of_isAddressChar {c : Char} (h : isAddressChar c = true) :
    Text.isBlank c = false := by
  obtain ⟨hlow, hhigh, -⟩ := toNat_of_isAddressChar h
  simp only [Text.isBlank, Bool.or_eq_false_iff, Bool.and_eq_false_iff, beq_eq_false_iff_ne,
    decide_eq_false_iff_not]
  omega

theorem ne_of_isAddressChar {c d : Char} (h : isAddressChar c = true)
    (hd : isAddressChar d = false) : c ≠ d :=
  ne_of_apply_ne isAddressChar (by simp [h, hd])

def AddressBefore (cs rest : List Char) : Prop :=
  ∃ front, cs = front ++ rest ∧ ∀ c ∈ front, isAddressChar c = true

namespace AddressBefore

variable {cs ds es : List Char}

theorem refl (cs : List Char) : AddressBefore cs cs := ⟨[], rfl, nofun⟩

theorem trans (h : AddressBefore cs ds) (h' : AddressBefore ds es) : AddressBefore cs es := by
  obtain ⟨front, rfl, hfront⟩ := h
  obtain ⟨more, rfl, hmore⟩ := h'
  exact ⟨front ++ more, (List.append_assoc _ _ _).symm, List.forall_mem_append.2 ⟨hfront, hmore⟩⟩

theorem cons {c : Char} (hc : isAddressChar c = true) (h : AddressBefore cs ds) :
    AddressBefore (c :: cs) ds := by
  obtain ⟨front, rfl, hfront⟩ := h
  exact ⟨c :: front, rfl, List.forall_mem_cons.2 ⟨hc, hfront⟩⟩

end AddressBefore

variable {form : Form} {cs rest : List Char}

theorem addressBefore_number {base most limit n : Nat}
    (h : number? base most limit cs = some (n, rest)) : AddressBefore cs rest := by
  simp only [number?] at h
  split at h
  · cases h
  · cases h
    refine ⟨_, List.takeWhile_append_dropWhile.symm, fun c hc => ?_⟩
    exact isAddressChar_of_isDigitIn (List.all_eq_true.1 List.all_takeWhile c hc)

theorem addressBefore_octet {n : Nat} (h : octet? form cs = some (n, rest)) :
    AddressBefore cs rest := by
  unfold octet? at h
  split at h
  · split at h
    · cases h
    · exact addressBefore_number h
  · exact addressBefore_number h

theorem addressBefore_octetAfter {n : Nat} (h : octetAfter? form '.' cs = some (n, rest)) :
    AddressBefore cs rest := by
  unfold octetAfter? at h
  split at h
  · split at h
    · next c rest hc =>
      subst hc
      exact (addressBefore_octet h).cons (by decide)
    · cases h
  · cases h

theorem addressBefore_octets {ns : Nat × Nat × Nat × Nat} (h : octets? form cs = some (ns, rest)) :
    AddressBefore cs rest := by
  simp only [octets?, Option.bind_eq_bind, Option.bind_eq_some_iff, Prod.exists] at h
  obtain ⟨a, cs₁, ha, b, cs₂, hb, c, cs₃, hc, d, cs₄, hd, h⟩ := h
  cases h
  exact (addressBefore_octet ha).trans ((addressBefore_octetAfter hb).trans
    ((addressBefore_octetAfter hc).trans (addressBefore_octetAfter hd)))

theorem addressBefore_groups (form : Form) (room : Nat) (first : Bool) (cs : List Char) :
    AddressBefore cs (groups form room first cs).2.2 := by
  induction room generalizing first cs with
  | zero => exact .refl cs
  | succ room ih =>
    unfold groups
    dsimp only
    split
    · exact .refl cs
    · next body hbody =>
      have hcolon : AddressBefore cs body := by
        split at hbody
        · cases hbody
          exact .refl cs
        · split at hbody
          · cases hbody
            exact (AddressBefore.refl _).cons (by decide)
          · cases hbody
      split
      · next hoctets =>
        split at hoctets
        · cases hoctets
        · exact hcolon.trans (addressBefore_octets hoctets)
      · split
        · next hnumber => exact hcolon.trans ((addressBefore_number hnumber).trans (ih false _))
        · exact .refl cs

theorem addressBefore_v6 {bits : BitVec 128} (h : v6? form cs = some (bits, rest)) :
    AddressBefore cs rest := by
  have hhead := addressBefore_groups form 8 true cs
  unfold v6? at h
  dsimp only at h
  split at h
  · cases h
    exact hhead
  · split at h
    · cases h
    · split at h
      · next behind hrest =>
        cases h
        rw [hrest] at hhead
        have htail := addressBefore_groups form
          (8 - (groups form 8 true cs).1.length - form.fewestZeros) true behind
        exact hhead.trans ((htail.cons (by decide)).cons (by decide))
      · cases h

theorem addressBefore_v4 {bits : BitVec 32} (h : v4? form cs = some (bits, rest)) :
    AddressBefore cs rest := by
  obtain ⟨⟨ns, after⟩, hoctets, he⟩ := Option.map_eq_some_iff.1 h
  cases he
  exact addressBefore_octets hoctets

/-- Four numbers with points between them are no version 6 address. -/
theorem v6?_of_v4? {bits : BitVec 32} (h : v4? form cs = some (bits, rest)) : v6? form cs = none := by
  obtain ⟨⟨⟨a, b, c, d⟩, after⟩, hoctets, -⟩ := Option.map_eq_some_iff.1 h
  have hgroups : groups form 8 true cs = ([a * 256 + b, c * 256 + d], true, after) := by
    simp [groups, hoctets]
  simp [v6?, hgroups]

namespace Address

variable {text : String} {a : Address}

/-- Which reading an address comes from. -/
theorem parse?_cases (h : parse? text = some a) :
    (∃ bits, a = .v4 bits ∧ v4? .strict text.toList = some (bits, [])) ∨
      ∃ bits, a = .v6 bits ∧ v6? .strict text.toList = some (bits, []) := by
  unfold parse? at h
  split at h
  · next bits h4 =>
    cases h
    exact .inl ⟨bits, rfl, h4⟩
  · split at h
    · next bits h6 =>
      cases h
      exact .inr ⟨bits, rfl, h6⟩
    · cases h

theorem isAddressChar_of_parse? (h : parse? text = some a) :
    ∀ c ∈ text.toList, isAddressChar c = true := by
  have hbefore : AddressBefore text.toList [] := by
    rcases parse?_cases h with ⟨bits, -, h4⟩ | ⟨bits, -, h6⟩
    · exact addressBefore_v4 h4
    · exact addressBefore_v6 h6
  obtain ⟨front, hfront, hchars⟩ := hbefore
  rwa [hfront, List.append_nil]

end Address

variable {host : String}

theorem authority_of_v4 {bits : BitVec 32} (h : Address.parse? host = some (.v4 bits)) (port : Nat) :
    authority host port = host ++ ":" ++ toString port := by
  rcases Address.parse?_cases h with ⟨bits', -, h4⟩ | ⟨bits', he, -⟩
  · rw [authority, v6?_of_v4? h4]
  · cases he

theorem authority_of_v6 {bits : BitVec 128} (h : Address.parse? host = some (.v6 bits))
    (port : Nat) : authority host port = "[" ++ host ++ "]:" ++ toString port := by
  rcases Address.parse?_cases h with ⟨bits', he, -⟩ | ⟨bits', -, h6⟩
  · cases he
  · rw [authority, h6]

/-- An address needs brackets in front of a port exactly if it is one of version 6. -/
theorem authority_eq_iff {a : Address} (h : Address.parse? host = some a) (port : Nat) :
    authority host port = host ++ ":" ++ toString port ↔ ∃ bits, a = .v4 bits := by
  cases a with
  | v4 bits => exact iff_of_true (authority_of_v4 h port) ⟨bits, rfl⟩
  | v6 bits =>
    refine iff_of_false (fun he => ?_) (by rintro ⟨_, hbits⟩; cases hbits)
    have hlen := congrArg String.length (he.symm.trans (authority_of_v6 h port))
    simp only [String.length_append] at hlen
    have hbrackets : "[".length + "]:".length = ":".length + 2 := by decide
    omega

end ProxyFleet.Net
