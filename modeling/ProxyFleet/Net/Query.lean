import ProxyFleet.Net.Percent

/-!
Form encoding of a query: letters, digits and four marks stand for themselves, a space becomes a
plus sign, and every other byte is percent-encoded.
-/

namespace ProxyFleet.Net

def isPlainByte (b : UInt8) : Bool :=
  let c := Char.ofNat b.toNat
  (b.toNat < 0x80 && c.isAlphanum) || c = '*' || c = '-' || c = '.' || c = '_'

def encodeByte (b : UInt8) : List Char :=
  if isPlainByte b then [Char.ofNat b.toNat]
  else if b = 0x20 then ['+']
  else escapeByte b

def encodeText (s : String) : String := String.ofList ((Text.utf8 s).flatMap encodeByte)

def encodePair (name value : String) : String := encodeText name ++ "=" ++ encodeText value

end ProxyFleet.Net
