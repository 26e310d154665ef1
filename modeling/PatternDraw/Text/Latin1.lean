/-!
# One byte per character

Characters up to U+00FF correspond to the 256 bytes by their code points.  Encoding a text
fails when it holds any other character; every sequence of bytes can be decoded.
-/

namespace PatternDraw.Text.Latin1

/-- The byte of a character, if its code point is one. -/
def encodeChar? (ch : Char) : Option UInt8 :=
  if ch.toNat < 256 then some ch.toNat.toUInt8 else none

/-- The bytes of a list of characters, if each has one. -/
def encodeList? (chars : List Char) : Option (List UInt8) :=
  chars.mapM encodeChar?

/-- The bytes of a text, if each of its characters has one. -/
def encode? (text : String) : Option ByteArray :=
  (encodeList? text.toList).map List.toByteArray

/-- The character of a byte. -/
def decodeByte (byte : UInt8) : Char :=
  Char.ofNat byte.toNat

/-- The text that has the given bytes, one character for each. -/
def decode (bytes : ByteArray) : String :=
  String.ofList (bytes.toList.map decodeByte)

end PatternDraw.Text.Latin1
