/-
Characters written with a backslash.

A backslash and a letter stand for a control character, a backslash and octal or hexadecimal digits
for a byte, and a backslash and the letter c for the end of all output.  A backslash in front of
anything else stands for itself.  Programs differ in which of these they know.
-/
import CheckMatrix.Text.Numeral
import CheckMatrix.Text.Packed

namespace CheckMatrix

/-- What a backslash stands for, with the number of characters behind it that belong to it. -/
inductive Escape
  | bytes (bytes : List UInt8) (size : Nat)
  | stop
  deriving DecidableEq, Repr

/-- The escapes that a program knows: whether a zero in front of octal digits is not counted among
them, whether there are hexadecimal digits, and whether output can be ended. -/
structure EscapeStyle where
  leadingZero : Bool
  hexadecimal : Bool
  canStop : Bool
  deriving DecidableEq, Repr

namespace Escape

/-- The control characters that have a letter. -/
def letters : List (Char × UInt8) := [
  ('\\', 92), ('a', 7), ('b', 8), ('e', 27), ('f', 12), ('n', 10), ('r', 13), ('t', 9), ('v', 11)]

/-- The octal digits at the front of a text, three at most. -/
def octalDigits (text : List Char) : List Char :=
  (text.take 3).takeWhile (Text.isDigitOf 8)

/-- The byte that octal digits stand for. -/
def ofOctal (digits : List Char) (extra : Nat) : Escape :=
  .bytes [UInt8.ofNat (Text.valueOf 8 digits)] (digits.length + extra)

/-- Reads what follows a backslash. -/
def read (style : EscapeStyle) : List Char → Escape
  | [] => .bytes [92] 0
  | c :: rest =>
    let hex := (rest.take 2).takeWhile (Text.isDigitOf 16)
    if c = 'c' ∧ style.canStop then .stop
    else if c = '0' ∧ style.leadingZero then ofOctal (octalDigits rest) 1
    else if Text.isDigitOf 8 c then ofOctal (octalDigits (c :: rest)) 0
    else if c = 'x' ∧ style.hexadecimal ∧ hex ≠ [] then
      .bytes [UInt8.ofNat (Text.valueOf 16 hex)] (hex.length + 1)
    else
      match letters.lookup c with
      | some byte => .bytes [byte] 1
      | none => .bytes [92] 0

end Escape

/-- The bytes of a text with escapes, and whether all output ends with them; `skip` counts the
characters that belong to an escape already read. -/
def unescape (style : EscapeStyle) : (skip : Nat) → List Char → List UInt8 × Bool
  | _, [] => ([], false)
  | skip + 1, _ :: rest => unescape style skip rest
  | 0, c :: rest =>
    if c = '\\' then
      match Escape.read style rest with
      | .stop => ([], true)
      | .bytes bytes size =>
        let (after, stops) := unescape style size rest
        (bytes ++ after, stops)
    else
      let (after, stops) := unescape style 0 rest
      (UInt8.ofNat c.toNat :: after, stops)

end CheckMatrix
