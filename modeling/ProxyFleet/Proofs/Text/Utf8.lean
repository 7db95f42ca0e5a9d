import ProxyFleet.Text.Utf8

/-!
Bytes of a text are read as that text: each character is read from its own bytes, whatever comes
behind them.
-/

namespace ProxyFleet.Text

theorem isContinuation_ofNat {n : Nat} (h : n < 64) :
    isContinuation (UInt8.ofNat (n + 128)) = true := by
  rw [isContinuation, UInt8.toNat_ofNat_of_lt' (show n + 128 < 256 by omega)]
  simp only [Bool.and_eq_true, decide_eq_true_eq]
  omega

theorem readChar_one {n : Nat} (h : n < 128) (rest : Bytes) :
    readChar (UInt8.ofNat n) rest = (Char.ofNat n, 0) := by
  simp [readChar, UInt8.toNat_ofNat_of_lt' (show n < 256 by omega), h]

theorem readChar_two {a b : Nat} (ha : 2 ≤ a) (ha' : a < 32) (hb : b < 64) (rest : Bytes) :
    readChar (UInt8.ofNat (a + 192)) (UInt8.ofNat (b + 128) :: rest) =
      (Char.ofNat (a * 64 + b), 1) := by
  have h1 := UInt8.toNat_ofNat_of_lt' (show a + 192 < 256 by omega)
  have h2 := UInt8.toNat_ofNat_of_lt' (show b + 128 < 256 by omega)
  have hc : continuation? (UInt8.ofNat (a + 192)) = some (0x80, 0xbf, 1) := by
    simp only [continuation?, h1]
    rw [if_pos (by simp; omega)]
  have hlead : leadBits (UInt8.ofNat (a + 192)) 1 = a := by
    rw [leadBits, h1, Nat.shiftRight_eq_div_pow]
    omega
  have hsecond : ((0x80 : Nat) ≤ b + 128 && b + 128 ≤ 0xbf) = true := by simp; omega
  have hcode : a * 64 + (b + 128) % 64 = a * 64 + b := by omega
  rw [readChar, if_neg (by omega), hc]
  simp only [h2, hsecond, if_true, List.take_zero, List.takeWhile_nil, List.length_nil,
    List.foldl_cons, List.foldl_nil, hlead, Nat.sub_self, hcode]

theorem readChar_three {a b c : Nat} (ha : a < 16) (hb : b < 64) (hc : c < 64)
    (hlow : a = 0 → 32 ≤ b) (hgap : a = 13 → b < 32) (rest : Bytes) :
    readChar (UInt8.ofNat (a + 224)) (UInt8.ofNat (b + 128) :: UInt8.ofNat (c + 128) :: rest) =
      (Char.ofNat ((a * 64 + b) * 64 + c), 2) := by
  have h1 := UInt8.toNat_ofNat_of_lt' (show a + 224 < 256 by omega)
  have h2 := UInt8.toNat_ofNat_of_lt' (show b + 128 < 256 by omega)
  have h3 := UInt8.toNat_ofNat_of_lt' (show c + 128 < 256 by omega)
  obtain ⟨lo, hi, hcont, hlo, hhi⟩ : ∃ lo hi, continuation? (UInt8.ofNat (a + 224)) =
      some (lo, hi, 2) ∧ lo ≤ b + 128 ∧ b + 128 ≤ hi := by
    simp only [continuation?, h1, Bool.and_eq_true, decide_eq_true_eq]
    rw [if_neg (by omega)]
    split
    · exact ⟨_, _, rfl, by omega, by omega⟩
    · split
      · exact ⟨_, _, rfl, by omega, by omega⟩
      · rw [if_pos (by omega)]
        exact ⟨_, _, rfl, by omega, by omega⟩
  have hlead : leadBits (UInt8.ofNat (a + 224)) 2 = a := by
    rw [leadBits, h1, Nat.shiftRight_eq_div_pow]
    omega
  have hsecond : (lo ≤ b + 128 && b + 128 ≤ hi) = true := by simp [hlo, hhi]
  have hcode : (a * 64 + (b + 128) % 64) * 64 + (c + 128) % 64 = (a * 64 + b) * 64 + c := by omega
  have hothers : (List.take (2 - 1) (UInt8.ofNat (c + 128) :: rest)).takeWhile isContinuation =
      [UInt8.ofNat (c + 128)] := by
    rw [List.take_succ_cons, List.takeWhile_cons, if_pos (isContinuation_ofNat hc)]
    rfl
  rw [readChar, if_neg (by omega), hcont]
  simp only [h2, hsecond, if_true, hothers, List.length_singleton, List.foldl_cons,
    List.foldl_nil, hlead, h3, hcode]

theorem readChar_four {a b c d : Nat} (ha : a ≤ 4) (hb : b < 64) (hc : c < 64) (hd : d < 64)
    (hlow : a = 0 → 16 ≤ b) (hhigh : a = 4 → b < 16) (rest : Bytes) :
    readChar (UInt8.ofNat (a + 240)) (UInt8.ofNat (b + 128) :: UInt8.ofNat (c + 128) ::
        UInt8.ofNat (d + 128) :: rest) =
      (Char.ofNat (((a * 64 + b) * 64 + c) * 64 + d), 3) := by
  have h1 := UInt8.toNat_ofNat_of_lt' (show a + 240 < 256 by omega)
  have h2 := UInt8.toNat_ofNat_of_lt' (show b + 128 < 256 by omega)
  have h3 := UInt8.toNat_ofNat_of_lt' (show c + 128 < 256 by omega)
  have h4 := UInt8.toNat_ofNat_of_lt' (show d + 128 < 256 by omega)
  obtain ⟨lo, hi, hcont, hlo, hhi⟩ : ∃ lo hi, continuation? (UInt8.ofNat (a + 240)) =
      some (lo, hi, 3) ∧ lo ≤ b + 128 ∧ b + 128 ≤ hi := by
    simp only [continuation?, h1, Bool.and_eq_true, decide_eq_true_eq]
    rw [if_neg (by omega), if_neg (by omega), if_neg (by omega), if_neg (by omega)]
    split
    · exact ⟨_, _, rfl, by omega, by omega⟩
    · split
      · exact ⟨_, _, rfl, by omega, by omega⟩
      · rw [if_pos (by omega)]
        exact ⟨_, _, rfl, by omega, by omega⟩
  have hlead : leadBits (UInt8.ofNat (a + 240)) 3 = a := by
    rw [leadBits, h1, Nat.shiftRight_eq_div_pow]
    omega
  have hsecond : (lo ≤ b + 128 && b + 128 ≤ hi) = true := by simp [hlo, hhi]
  have hcode : ((a * 64 + (b + 128) % 64) * 64 + (c + 128) % 64) * 64 + (d + 128) % 64 =
      ((a * 64 + b) * 64 + c) * 64 + d := by omega
  have hothers : (List.take (3 - 1) (UInt8.ofNat (c + 128) :: UInt8.ofNat (d + 128) ::
      rest)).takeWhile isContinuation = [UInt8.ofNat (c + 128), UInt8.ofNat (d + 128)] := by
    rw [List.take_succ_cons, List.take_succ_cons, List.takeWhile_cons,
      if_pos (isContinuation_ofNat hc), List.takeWhile_cons, if_pos (isContinuation_ofNat hd)]
    rfl
  rw [readChar, if_neg (by omega), hcont]
  simp only [h2, hsecond, if_true, hothers, List.length_cons, List.length_nil, List.foldl_cons,
    List.foldl_nil, hlead, h3, h4, hcode, Nat.reduceSub]

theorem toList_loop_eq (bytes : ByteArray) (i : Nat) (read : List UInt8) :
    ByteArray.toList.loop bytes i read = read.reverse ++ bytes.data.toList.drop i := by
  fun_induction ByteArray.toList.loop bytes i read with
  | case1 i read h ih =>
    have hi : i < bytes.data.toList.length := by simpa using h
    rw [ih, List.reverse_cons, List.append_assoc, List.drop_eq_getElem_cons hi]
    simp [ByteArray.get!, h]
  | case2 i read h =>
    rw [List.drop_eq_nil_of_le (by simpa using Nat.le_of_not_lt h), List.append_nil]

theorem toList_toByteArray (bytes : Bytes) : bytes.toByteArray.toList = bytes := by
  rw [ByteArray.toList, toList_loop_eq, List.toList_data_toByteArray]
  rfl

theorem readChar_utf8EncodeChar (c : Char) :
    ∃ b bytes, String.utf8EncodeChar c = b :: bytes ∧
      ∀ rest, readChar b (bytes ++ rest) = (c, bytes.length) := by
  have hc := c.valid
  simp only [UInt32.isValidChar, Nat.isValidChar] at hc
  have hv : Char.ofNat c.val.toNat = c := Char.ofNat_toNat c
  generalize hn : c.val.toNat = n at hc hv
  simp only [String.utf8EncodeChar, hn]
  split
  · refine ⟨_, _, rfl, fun rest => ?_⟩
    rw [List.nil_append, readChar_one (by omega), hv, List.length_nil]
  · split
    · refine ⟨_, _, rfl, fun rest => ?_⟩
      rw [List.cons_append, readChar_two (by omega) (by omega) (by omega),
        show n / 64 % 32 * 64 + n % 64 = n by omega, hv]
      rfl
    · split
      · refine ⟨_, _, rfl, fun rest => ?_⟩
        rw [List.cons_append, List.cons_append, readChar_three (by omega) (by omega) (by omega)
          (by omega) (by omega), show (n / 4096 % 16 * 64 + n / 64 % 64) * 64 + n % 64 = n by omega, hv]
        rfl
      · refine ⟨_, _, rfl, fun rest => ?_⟩
        rw [List.cons_append, List.cons_append, List.cons_append, readChar_four (by omega)
          (by omega) (by omega) (by omega) (by omega) (by omega),
          show ((n / 262144 % 8 * 64 + n / 4096 % 64) * 64 + n / 64 % 64) * 64 + n % 64 = n by omega,
          hv]
        rfl

theorem decode_flatMap_utf8EncodeChar (cs : List Char) :
    decode (cs.flatMap String.utf8EncodeChar) = cs := by
  induction cs with
  | nil => rw [List.flatMap_nil, decode]
  | cons c rest ih =>
    obtain ⟨b, bytes, hc, hread⟩ := readChar_utf8EncodeChar c
    rw [List.flatMap_cons, hc, List.cons_append, decode]
    simp only [hread, List.drop_left, ih]

theorem utf8_eq_flatMap (s : String) : utf8 s = s.toList.flatMap String.utf8EncodeChar := by
  rw [utf8, String.toUTF8_eq_toByteArray]
  have hb := String.toByteArray_ofList (l := s.toList)
  rw [String.ofList_toList, List.utf8Encode] at hb
  rw [hb]
  exact toList_toByteArray _

/-- Text survives being made into bytes. -/
theorem lossy_utf8 (s : String) : lossy (utf8 s) = s := by
  rw [lossy, utf8_eq_flatMap, decode_flatMap_utf8EncodeChar, String.ofList_toList]

end ProxyFleet.Text
