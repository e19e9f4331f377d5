/-
Texts as bytes.

`encode` writes a text as UTF-8.  `decode` reads any bytes: where they are not UTF-8, each longest
beginning of a character that breaks off, or each byte that begins none, becomes one replacement
character.  `isText` tells whether nothing has to be replaced.
-/
namespace CheckMatrix.Text

/-- The bytes of a text. -/
def encode (text : List Char) : List UInt8 :=
  text.flatMap String.utf8EncodeChar

/-- Stands for bytes that are no text. -/
def replacement : Char := '\uFFFD'

/-- A byte that continues a character. -/
def isTail (b : UInt8) : Bool :=
  0x80 ≤ b && b ≤ 0xBF

/-- The six bits that a tail byte carries. -/
def tailBits (b : UInt8) : Nat :=
  b.toNat % 64

/-- The bytes that may follow a first byte of three. -/
def secondOfThree (first second : UInt8) : Bool :=
  if first = 0xE0 then 0xA0 ≤ second && second ≤ 0xBF
  else if first = 0xED then 0x80 ≤ second && second ≤ 0x9F
  else isTail second

/-- The bytes that may follow a first byte of four. -/
def secondOfFour (first second : UInt8) : Bool :=
  if first = 0xF0 then 0x90 ≤ second && second ≤ 0xBF
  else if first = 0xF4 then 0x80 ≤ second && second ≤ 0x8F
  else isTail second

/-- The character that a byte and the bytes behind it make, if any, and the number of bytes behind
the first that it takes up. -/
def firstChar (b : UInt8) (rest : List UInt8) : Option Char × Nat :=
  if b < 0x80 then (some (Char.ofNat b.toNat), 0)
  else if 0xC2 ≤ b && b ≤ 0xDF then
    match rest with
    | c :: _ =>
      if isTail c then (some (Char.ofNat (b.toNat % 32 * 64 + tailBits c)), 1) else (none, 0)
    | [] => (none, 0)
  else if 0xE0 ≤ b && b ≤ 0xEF then
    match rest with
    | c :: behind =>
      if secondOfThree b c then
        match behind with
        | d :: _ =>
          if isTail d then
            (some (Char.ofNat ((b.toNat % 16 * 64 + tailBits c) * 64 + tailBits d)), 2)
          else (none, 1)
        | [] => (none, 1)
      else (none, 0)
    | [] => (none, 0)
  else if 0xF0 ≤ b && b ≤ 0xF4 then
    match rest with
    | c :: behind =>
      if secondOfFour b c then
        match behind with
        | d :: last =>
          if isTail d then
            match last with
            | e :: _ =>
              if isTail e then
                (some (Char.ofNat
                  (((b.toNat % 8 * 64 + tailBits c) * 64 + tailBits d) * 64 + tailBits e)), 3)
              else (none, 2)
            | [] => (none, 2)
          else (none, 1)
        | [] => (none, 1)
      else (none, 0)
    | [] => (none, 0)
  else (none, 0)

/-- Reads the characters of some bytes; `skip` counts those that a character has used up. -/
def charsFrom : (skip : Nat) → List UInt8 → List (Option Char)
  | _, [] => []
  | skip + 1, _ :: rest => charsFrom skip rest
  | 0, b :: rest =>
    let (c, size) := firstChar b rest
    c :: charsFrom size rest

/-- The text of some bytes, with replacements where they are none. -/
def decode (bytes : List UInt8) : List Char :=
  (charsFrom 0 bytes).map (·.getD replacement)

/-- The bytes are UTF-8. -/
def isText (bytes : List UInt8) : Bool :=
  (charsFrom 0 bytes).all Option.isSome

end CheckMatrix.Text
