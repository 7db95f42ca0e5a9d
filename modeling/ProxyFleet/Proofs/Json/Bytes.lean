import ProxyFleet.Json.Bytes
import ProxyFleet.Proofs.Text.Utf8

/-!
Bytes of a text hold the document that the text holds: no piece of them is faulty, and nothing is put
in place of another.
-/

namespace ProxyFleet.Json

open Text (Bytes utf8 readChar)

theorem utf8_toString (c : Char) : utf8 c.toString = String.utf8EncodeChar c := by
  rw [Text.utf8_eq_flatMap, Char.toString_eq_singleton, String.toList_singleton,
    List.flatMap_singleton]

theorem spelled_flatMap_utf8EncodeChar (cs : List Char) :
    spelled (cs.flatMap String.utf8EncodeChar) = cs.map some := by
  induction cs with
  | nil => rw [List.flatMap_nil, spelled, List.map_nil]
  | cons c rest ih =>
    obtain ⟨b, bytes, hc, hread⟩ := Text.readChar_utf8EncodeChar c
    rw [List.flatMap_cons, hc, List.cons_append, spelled]
    simp only [hread, utf8_toString, hc, List.take_left, List.drop_left, if_true, ih, List.map_cons]

/-- Where no piece is faulty, within strings or between them, nothing is mended. -/
theorem mended?_map_some (within : Bool) (cs : List Char) :
    mended? within (cs.map some) = some cs := by
  generalize hpieces : cs.map some = pieces
  fun_induction mended? within pieces generalizing cs with
  | case1 within => rw [List.map_eq_nil_iff.1 hpieces]
  | case2 rest ih => simp [List.map_eq_cons_iff] at hpieces
  | case3 within rest hwithin => simp [List.map_eq_cons_iff] at hpieces
  | case4 within c hescape =>
    simp only [List.map_eq_cons_iff, Option.some.injEq, List.map_eq_nil_iff] at hpieces
    obtain ⟨c', rest, rfl, rfl, rfl⟩ := hpieces
    rfl
  | case5 within c hescape rest => simp [List.map_eq_cons_iff] at hpieces
  | case6 within c hescape escaped rest ih =>
    simp only [List.map_eq_cons_iff, Option.some.injEq] at hpieces
    obtain ⟨c', _, rfl, rfl, escaped', rest', rfl, rfl, hrest⟩ := hpieces
    rw [ih rest' hrest, Option.map_some]
  | case7 within c rest hescape ih =>
    simp only [List.map_eq_cons_iff, Option.some.injEq] at hpieces
    obtain ⟨c', rest', rfl, rfl, hrest⟩ := hpieces
    rw [ih rest' hrest, Option.map_some]

theorem ofBytes?_utf8 (s : String) : ofBytes? (utf8 s) = parse? s := by
  rw [ofBytes?, Text.utf8_eq_flatMap, spelled_flatMap_utf8EncodeChar, mended?_map_some,
    Option.bind_some, String.ofList_toList]

end ProxyFleet.Json
