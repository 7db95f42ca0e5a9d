/-!
Bytes as text. Reading never fails: each longest run of bytes that begins a character but does not
complete it, and each byte that begins none, is read as one replacement character.
-/

namespace ProxyFleet.Text

abbrev Bytes := List UInt8

def utf8 (s : String) : Bytes :=
  s.toUTF8.toList

def replacement : Char := '\ufffd'

/-- How a character may continue after its first byte: the bounds of its second byte and the
number of bytes after the first. Nothing for a byte that begins no longer character. -/
def continuation? (b : UInt8) : Option (Nat × Nat × Nat) :=
  let n := b.toNat
  if 0xc2 ≤ n && n ≤ 0xdf then some (0x80, 0xbf, 1)
  else if n = 0xe0 then some (0xa0, 0xbf, 2)
  else if n = 0xed then some (0x80, 0x9f, 2)
  else if 0xe1 ≤ n && n ≤ 0xef then some (0x80, 0xbf, 2)
  else if n = 0xf0 then some (0x90, 0xbf, 3)
  else if 0xf1 ≤ n && n ≤ 0xf3 then some (0x80, 0xbf, 3)
  else if n = 0xf4 then some (0x80, 0x8f, 3)
  else none

def isContinuation (b : UInt8) : Bool :=
  0x80 ≤ b.toNat && b.toNat ≤ 0xbf

/-- The payload of the first byte of a character of `extra + 1` bytes. -/
def leadBits (b : UInt8) (extra : Nat) : Nat :=
  b.toNat % (0x40 >>> extra)

/-- The character at the front of `b :: rest`, with the number of bytes of `rest` it takes. -/
def readChar (b : UInt8) (rest : Bytes) : Char × Nat :=
  if b.toNat < 0x80 then (Char.ofNat b.toNat, 0)
  else match continuation? b with
    | none => (replacement, 0)
    | some (lo, hi, extra) =>
      match rest with
      | [] => (replacement, 0)
      | second :: more =>
        if lo ≤ second.toNat && second.toNat ≤ hi then
          let others := (more.take (extra - 1)).takeWhile isContinuation
          if others.length = extra - 1 then
            let code := (second :: others).foldl (fun n x => n * 64 + x.toNat % 64) (leadBits b extra)
            (Char.ofNat code, extra)
          else (replacement, others.length + 1)
        else (replacement, 0)

def decode : Bytes → List Char
  | [] => []
  | b :: rest =>
    let (c, n) := readChar b rest
    c :: decode (rest.drop n)
termination_by bytes => bytes.length
decreasing_by simp only [List.length_drop, List.length_cons]; omega

/-- The text that bytes stand for, whatever they are. -/
def lossy (bytes : Bytes) : String :=
  String.ofList (decode bytes)

end ProxyFleet.Text
