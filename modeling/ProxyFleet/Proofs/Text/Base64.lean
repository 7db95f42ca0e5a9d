import ProxyFleet.Text.Base64

/-!
Reading base64 accepts exactly what writing produces: bytes are read back from their encoding, and
no other text is read as those bytes.
-/

namespace ProxyFleet.Text.Base64

theorem value?_digit {n : Nat} (h : n < 64) : value? (digit n) = some n := by
  revert n
  decide

theorem digit_ne_pad {n : Nat} (h : n < 64) : digit n ≠ '=' := by
  revert n
  decide

/-- A character has a value if it is a digit. -/
theorem digit_of_value? {c : Char} {n : Nat} (h : value? c = some n) : n < 64 ∧ digit n = c := by
  have hle (a b : Char) : a ≤ b ↔ a.toNat ≤ b.toNat := Iff.rfl
  have hcodes : 'A'.toNat = 65 ∧ 'Z'.toNat = 90 ∧ 'a'.toNat = 97 ∧ 'z'.toNat = 122 ∧
      '0'.toNat = 48 ∧ '9'.toNat = 57 := by decide
  obtain ⟨hA, hZ, ha, hz, h0, h9⟩ := hcodes
  have hshift {k : Nat} (hk : k = c.toNat) : Char.ofNat k = c := hk ▸ Char.ofNat_toNat c
  -- a range of the alphabet at a time: its characters are found again by their place in it
  simp only [value?, hle, hA, hZ, ha, hz, h0, h9] at h
  split at h
  · cases h
    refine ⟨by omega, ?_⟩
    rw [digit, if_pos (by omega)]
    exact hshift (by omega)
  · split at h
    · cases h
      refine ⟨by omega, ?_⟩
      rw [digit, if_neg (by omega), if_pos (by omega)]
      exact hshift (by omega)
    · split at h
      · cases h
        refine ⟨by omega, ?_⟩
        rw [digit, if_neg (by omega), if_neg (by omega), if_pos (by omega)]
        exact hshift (by omega)
      · split at h
        · next hc =>
          cases h
          exact ⟨by decide, hc ▸ rfl⟩
        · split at h
          · next hc =>
            cases h
            exact ⟨by decide, hc ▸ rfl⟩
          · cases h

theorem toUInt8_eq {a : UInt8} {n : Nat} (h : n = a.toNat) : n.toUInt8 = a := by
  rw [h]
  exact UInt8.ofNat_toNat

theorem toNat_toUInt8 {n : Nat} (h : n < 256) : n.toUInt8.toNat = n :=
  UInt8.toNat_ofNat_of_lt' h

theorem triple?_digits (a b c : UInt8) :
    triple? (digit (a.toNat / 4)) (digit (a.toNat % 4 * 16 + b.toNat / 16))
      (digit (b.toNat % 16 * 4 + c.toNat / 64)) (digit (c.toNat % 64)) = some (a, b, c) := by
  have ha := a.toNat_lt
  have hb := b.toNat_lt
  have hc := c.toNat_lt
  rw [triple?, value?_digit (by omega), value?_digit (by omega), value?_digit (by omega),
    value?_digit (by omega)]
  simp only [Option.bind_eq_bind, Option.bind_some]
  rw [toUInt8_eq (a := a) (by omega), toUInt8_eq (a := b) (by omega), toUInt8_eq (a := c) (by omega)]

theorem decode?_encode (bytes : Bytes) : decode? (encode bytes) = some bytes := by
  induction bytes using encode.induct with
  | case1 => rfl
  | case2 a =>
    have ha := a.toNat_lt
    rw [encode, decode?, last?, if_pos rfl, if_pos rfl, value?_digit (by omega),
      value?_digit (by omega)]
    simp only [Option.bind_eq_bind, Option.bind_some]
    rw [if_pos (by omega), toUInt8_eq (a := a) (by omega)]
  | case3 a b =>
    have ha := a.toNat_lt
    have hb := b.toNat_lt
    rw [encode, decode?, last?, if_pos rfl, if_neg (digit_ne_pad (by omega)),
      value?_digit (by omega), value?_digit (by omega), value?_digit (by omega)]
    simp only [Option.bind_eq_bind, Option.bind_some]
    rw [if_pos (by omega), toUInt8_eq (a := a) (by omega), toUInt8_eq (a := b) (by omega)]
  | case4 a b c rest ih =>
    rw [encode]
    -- the last four characters are read by another function than those before them
    cases hrest : encode rest with
    | nil =>
      rw [hrest] at ih
      have hc : c.toNat % 64 < 64 := by omega
      rw [decode?, last?, if_neg (digit_ne_pad hc), triple?_digits]
      simp only [Option.map_some, ← Option.some.inj ih]
    | cons d more =>
      rw [hrest] at ih
      rw [decode?, triple?_digits, ih]
      · rfl
      · nofun

theorem eq_digits_of_triple? {w x y z : Char} {a b c : UInt8}
    (h : triple? w x y z = some (a, b, c)) :
    w = digit (a.toNat / 4) ∧ x = digit (a.toNat % 4 * 16 + b.toNat / 16) ∧
      y = digit (b.toNat % 16 * 4 + c.toNat / 64) ∧ z = digit (c.toNat % 64) := by
  simp only [triple?, Option.bind_eq_bind, Option.bind_eq_some_iff, Option.some.injEq,
    Prod.mk.injEq] at h
  obtain ⟨k, hk, l, hl, m, hm, n, hn, rfl, rfl, rfl⟩ := h
  obtain ⟨hk, rfl⟩ := digit_of_value? hk
  obtain ⟨hl, rfl⟩ := digit_of_value? hl
  obtain ⟨hm, rfl⟩ := digit_of_value? hm
  obtain ⟨hn, rfl⟩ := digit_of_value? hn
  rw [toNat_toUInt8 (by omega), toNat_toUInt8 (by omega), toNat_toUInt8 (by omega)]
  refine ⟨?_, ?_, ?_, ?_⟩ <;> congr 1 <;> omega

theorem eq_encode_of_last? {w x y z : Char} {bytes : Bytes} (h : last? w x y z = some bytes) :
    [w, x, y, z] = encode bytes := by
  rw [last?] at h
  split at h
  · next hz =>
    split at h
    · next hy =>
      simp only [Option.bind_eq_bind, Option.bind_eq_some_iff, Option.ite_none_right_eq_some,
        Option.some.injEq] at h
      obtain ⟨k, hk, l, hl, hspare, rfl⟩ := h
      obtain ⟨hk, rfl⟩ := digit_of_value? hk
      obtain ⟨hl, rfl⟩ := digit_of_value? hl
      rw [encode, toNat_toUInt8 (by omega), hz, hy, show (k * 4 + l / 16) / 4 = k by omega,
        show (k * 4 + l / 16) % 4 * 16 = l by omega]
    · simp only [Option.bind_eq_bind, Option.bind_eq_some_iff, Option.ite_none_right_eq_some,
        Option.some.injEq] at h
      obtain ⟨k, hk, l, hl, m, hm, hspare, rfl⟩ := h
      obtain ⟨hk, rfl⟩ := digit_of_value? hk
      obtain ⟨hl, rfl⟩ := digit_of_value? hl
      obtain ⟨hm, rfl⟩ := digit_of_value? hm
      rw [encode, toNat_toUInt8 (by omega), toNat_toUInt8 (by omega), hz,
        show (k * 4 + l / 16) / 4 = k by omega,
        show (k * 4 + l / 16) % 4 * 16 + (l % 16 * 16 + m / 4) / 16 = l by omega,
        show (l % 16 * 16 + m / 4) % 16 * 4 = m by omega]
  · obtain ⟨⟨a, b, c⟩, htriple, rfl⟩ := Option.map_eq_some_iff.1 h
    obtain ⟨rfl, rfl, rfl, rfl⟩ := eq_digits_of_triple? htriple
    rfl

theorem eq_encode_of_decode? {cs : List Char} {bytes : Bytes} (h : decode? cs = some bytes) :
    cs = encode bytes := by
  fun_induction decode? cs generalizing bytes with
  | case1 =>
    cases h
    rfl
  | case2 w x y z => exact eq_encode_of_last? h
  | case3 w x y z rest hrest ih =>
    simp only [Option.bind_eq_bind, Option.bind_eq_some_iff, Option.some.injEq] at h
    obtain ⟨⟨a, b, c⟩, htriple, more, hmore, rfl⟩ := h
    obtain ⟨rfl, rfl, rfl, rfl⟩ := eq_digits_of_triple? htriple
    rw [encode, ih hmore]
  | case4 => cases h

/-- A text stands for bytes exactly if it is their encoding. -/
theorem decode?_eq_some_iff {cs : List Char} {bytes : Bytes} :
    decode? cs = some bytes ↔ cs = encode bytes :=
  ⟨eq_encode_of_decode?, fun h => h ▸ decode?_encode bytes⟩

end ProxyFleet.Text.Base64
