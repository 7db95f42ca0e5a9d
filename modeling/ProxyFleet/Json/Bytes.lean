import ProxyFleet.Json.Parser
import ProxyFleet.Text.Utf8

/-!
JSON out of bytes. Bytes that are no text are a fault between strings. Within a string they make it
unreadable, as half of a surrogate pair does, so they do no harm where the string is passed over.
-/

namespace ProxyFleet.Json

open Text (Bytes)

/-- The characters that bytes spell, with nothing in place of each piece that is no character. -/
def spelled : Bytes → List (Option Char)
  | [] => []
  | b :: rest =>
    let (c, n) := Text.readChar b rest
    (if Text.utf8 c.toString = b :: rest.take n then some c else none) :: spelled (rest.drop n)
termination_by bytes => bytes.length
decreasing_by simp only [List.length_drop, List.length_cons]; omega

/-- The escape of a surrogate that stands outside of a pair. -/
def loneSurrogate : List Char := "\\ud800".toList

/-- A JSON text with a lone surrogate in place of each faulty piece. There is none if a piece
outside of strings is faulty, or one behind a backslash. -/
def mended? (within : Bool) : List (Option Char) → Option (List Char)
  | [] => some []
  | none :: rest => if within then (mended? true rest).map (loneSurrogate ++ ·) else none
  | some c :: rest =>
    if within && c = '\\' then
      match rest with
      | [] => some [c]
      | none :: _ => none
      | some escaped :: rest => (mended? true rest).map fun cs => c :: escaped :: cs
    else (mended? (within != (c = '"')) rest).map (c :: ·)

/-- The document that bytes hold. -/
def ofBytes? (bytes : Bytes) : Option Json :=
  (mended? false (spelled bytes)).bind fun cs => parse? (String.ofList cs)

/-- What is passed over may be anything between its quotes. -/
example : ofBytes? [0x5b, 0x22, 0xff, 0x22, 0x5d] = some (.arr [.unreadable]) := by cbv

end ProxyFleet.Json
