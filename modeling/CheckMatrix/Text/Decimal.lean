/-
Decimal notation.

A number is a ratio of two whole numbers.  It is read from digits with a point and an exponent,
taken to the nearest one that a format can hold, and written with so many decimal places or digits,
always exactly: of two numbers that are equally near, the even one is taken.
-/
import CheckMatrix.Text.Numeral

namespace CheckMatrix.Text

/-- A number that is not negative, as a fraction. -/
structure Ratio where
  num : Nat
  den : Nat
  deriving DecidableEq, Repr

namespace Ratio

/-- A whole number times a power. -/
def scaled (n base : Nat) (exponent : Int) : Ratio :=
  if exponent < 0 then ⟨n, Nat.pow base exponent.natAbs⟩ else ⟨n * Nat.pow base exponent.natAbs, 1⟩

/-- The number times a power. -/
def scale (r : Ratio) (base : Nat) (exponent : Int) : Ratio :=
  if exponent < 0 then ⟨r.num, r.den * Nat.pow base exponent.natAbs⟩
  else ⟨r.num * Nat.pow base exponent.natAbs, r.den⟩

/-- The nearest whole number. -/
def round (r : Ratio) : Nat :=
  let quotient := r.num / r.den
  let rest := 2 * (r.num % r.den)
  if rest > r.den ∨ (rest = r.den ∧ quotient % 2 = 1) then quotient + 1 else quotient

/-- The largest exponent of a power that does not exceed the number. -/
def exponent (base : Nat) (r : Ratio) : Int :=
  let size (n : Nat) : Int := (inBase base n).length
  let guess := size r.num - size r.den
  let power := scaled 1 base guess
  if power.num * r.den ≤ r.num * power.den then guess else guess - 1

/-- Two fractions are one number. -/
def same (r s : Ratio) : Bool :=
  r.num * s.den = s.num * r.den

end Ratio

/-! ### Formats -/

/-- A format for binary numbers: how many digits there are, the exponent of the last digit of the
smallest ones, the exponent of the first power that is too large, and how many digits stand in front
of the point when four of them at a time are written as one. -/
structure BinaryFormat where
  digits : Nat
  least : Int
  bound : Int
  lead : Nat
  deriving DecidableEq, Repr

namespace BinaryFormat

/-- Numbers of sixty-four bits. -/
def double : BinaryFormat :=
  ⟨53, -1074, 1024, 1⟩

/-- The exponent of the last digit of a number. -/
def lowest (f : BinaryFormat) (r : Ratio) : Int :=
  if r.num = 0 then f.least else max (r.exponent 2 + 1 - f.digits) f.least

/-- The nearest number that the format can hold, if it is not too large. -/
def nearest? (f : BinaryFormat) (r : Ratio) : Option Ratio :=
  if r.num = 0 then some ⟨0, 1⟩
  else
    let found := Ratio.scaled (r.scale 2 (-f.lowest r)).round 2 (f.lowest r)
    if found.num ≠ 0 ∧ f.bound ≤ found.exponent 2 then none
    else some ⟨found.num, found.den⟩

/-- The number is too large for the format, or too small for all its digits. -/
def isOutOfRange (f : BinaryFormat) (r : Ratio) : Bool :=
  match f.nearest? r with
  | none => true
  | some found => r.num ≠ 0 && r.exponent 2 < f.least + f.digits - 1 && !found.same r

end BinaryFormat

/-! ### Reading -/

/-- The largest exponent that is read as it is written. -/
def largestExponent : Nat := 5000

/-- The exponent at the front of a text, behind its letter, and its length. -/
def exponentAhead (letter : Char) (text : List Char) : Int × Nat :=
  match text with
  | c :: rest =>
    let sign := (rest.take 1).takeWhile fun c => c = '+' || c = '-'
    let digits := (rest.drop sign.length).takeWhile Char.isDigit
    if c.toLower = letter && !digits.isEmpty then
      let size := min largestExponent (valueOf 10 digits)
      (if sign = ['-'] then -size else size, 1 + sign.length + digits.length)
    else (0, 0)
  | [] => (0, 0)

/-- The number at the front of a text, and its length: digits of a base with a point, and a letter
in front of the exponent of a power. -/
def ratioIn? (base : Nat) (letter : Char) (power digitPower : Nat) (text : List Char) :
    Option (Ratio × Nat) :=
  let whole := text.takeWhile (isDigitOf base)
  let rest := text.drop whole.length
  let places := match rest with
    | '.' :: rest => rest.takeWhile (isDigitOf base)
    | _ => []
  let point := if rest.head? = some '.' then 1 else 0
  let size := whole.length + point + places.length
  if whole.isEmpty && places.isEmpty then none
  else
    let (exponent, extra) := exponentAhead letter (text.drop size)
    some (.scaled (valueOf base (whole ++ places)) power (exponent - digitPower * places.length),
      size + extra)

/-- The number at the front of a text, decimal or with sixteen digits, and its length. -/
def ratio? (text : List Char) : Option (Ratio × Nat) :=
  match text with
  | '0' :: x :: rest =>
    match if x.toLower = 'x' then ratioIn? 16 'p' 2 4 rest else none with
    | some (r, size) => some (r, size + 2)
    | none => ratioIn? 10 'e' 10 1 text
  | _ => ratioIn? 10 'e' 10 1 text

/-! ### Writing -/

/-- Digits, at least so many, with zeros in front. -/
def digitsOf (least n : Nat) : List Char :=
  let digits := inBase 10 n
  List.replicate (least - digits.length) '0' ++ digits

/-- Digits with a point in front of the last ones; `always` tells that there is a point even where
nothing follows it. -/
def withPoint (always : Bool) (places : Nat) (digits : List Char) : List Char :=
  let (whole, rest) := digits.splitAt (digits.length - places)
  whole ++ if rest.isEmpty && !always then [] else '.' :: rest

/-- A number with so many decimal places. -/
def fixed (always : Bool) (places : Nat) (r : Ratio) : List Char :=
  withPoint always places (digitsOf (places + 1) (r.scale 10 places).round)

/-- The digits of a number, one more than `places`, and its exponent. -/
def leading (places : Nat) (r : Ratio) : List Char × Int :=
  if r.num = 0 then (digitsOf (places + 1) 0, 0)
  else
    let exponent := r.exponent 10
    let digits := digitsOf 1 (r.scale 10 (places - exponent)).round
    if digits.length > places + 1 then (digits.dropLast, exponent + 1) else (digits, exponent)

/-- An exponent behind its letter, of two digits at least. -/
def exponentText (letter : Char) (exponent : Int) : List Char :=
  letter :: (if exponent < 0 then '-' else '+') :: digitsOf 2 exponent.natAbs

/-- A number with one digit in front of the point, so many behind it, and an exponent. -/
def scientific (always : Bool) (places : Nat) (letter : Char) (r : Ratio) : List Char :=
  let (digits, exponent) := leading places r
  withPoint always places digits ++ exponentText letter exponent

/-- Digits without the zeros at the end of what stands behind the point. -/
def trimZeros (text : List Char) : List Char :=
  if text.contains '.' then
    match text.reverse.dropWhile (· = '0') with
    | '.' :: rest => rest.reverse
    | rest => rest.reverse
  else text

/-- A number with so many digits in the shorter of both notations; `always` tells that zeros at its
end stay. -/
def general (always : Bool) (digits : Nat) (letter : Char) (r : Ratio) : List Char :=
  let digits := max 1 digits
  let (shown, exponent) := leading (digits - 1) r
  let trim (text : List Char) := if always then text else trimZeros text
  if exponent < -4 ∨ (digits : Int) ≤ exponent then
    trim (withPoint always (digits - 1) shown) ++ exponentText letter exponent
  else trim (fixed always ((digits : Int) - 1 - exponent).toNat r)

/-- A number that a format holds, with sixteen digits and the exponent of a power of two: so many
digits behind the point, or as many as there are. -/
def hexadecimal (f : BinaryFormat) (always : Bool) (places : Option Nat) (r : Ratio) : List Char :=
  let most := (f.digits - f.lead) / 4
  let shown := places.getD most
  let known := min shown most
  let exponent := if r.num = 0 then 0 else f.lowest r + 4 * most
  let digits := inBase 16 (r.scale 2 (4 * known - exponent)).round
  let (digits, exponent) := if digits.length > known + 1 then (digits.dropLast, exponent + 4)
    else (List.replicate (known + 1 - digits.length) '0' ++ digits, exponent)
  let digits := digits ++ List.replicate (shown - known) '0'
  let digits := if places.isSome then digits
    else digits.take 1 ++ ((digits.drop 1).reverse.dropWhile (· = '0')).reverse
  let whole := withPoint always (digits.length - 1) digits
  whole ++ 'p' :: (if exponent < 0 then '-' else '+') :: digitsOf 1 exponent.natAbs

end CheckMatrix.Text
