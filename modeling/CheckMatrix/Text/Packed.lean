/-
Bytes as characters.

Programs work on bytes, whatever text these are meant to be.  A packed text has one character for
each byte, so that what is done to texts is done to bytes.  As long as a text is plain it is packed
already.
-/
import CheckMatrix.Text.Utf8

namespace CheckMatrix.Text

/-- The packed text of some bytes. -/
def ofBytes (bytes : List UInt8) : String :=
  String.ofList (bytes.map fun b => Char.ofNat b.toNat)

/-- The bytes of a packed text. -/
def bytesOf (text : String) : List UInt8 :=
  text.toList.map fun c => UInt8.ofNat c.toNat

/-- The bytes of a text as a packed one. -/
def packed (text : String) : String :=
  ofBytes (encode text.toList)

end CheckMatrix.Text
