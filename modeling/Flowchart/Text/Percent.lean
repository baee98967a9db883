/-! Percent coding of one segment of an address. -/

namespace Flowchart

namespace Percent

/-- The characters that stand for themselves in a segment. -/
def isUnreserved (c : Char) : Bool :=
  c.isAlphanum || c = '_' || c = '.' || c = '-' || c = '~'

/-- An upper case hexadecimal digit. -/
def hexDigit (n : Nat) : Char := (Nat.digitChar n).toUpper

/-- One byte of a segment. -/
def encodeByte (byte : UInt8) : List Char :=
  let c := Char.ofNat byte.toNat
  if byte < 0x80 && isUnreserved c then [c]
  else ['%', hexDigit (byte.toNat / 16), hexDigit (byte.toNat % 16)]

/-- A text as one segment: every byte of its UTF-8 form that does not stand for itself is written
by its value. -/
def encode (text : String) : String :=
  String.ofList (text.toUTF8.toList.flatMap encodeByte)

end Percent

end Flowchart
