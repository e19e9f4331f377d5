/-
Whole numbers in texts.

A numeral is a sign, perhaps, and one or more digits of a base; nothing else may stand beside them.
-/
namespace CheckMatrix.Text

/-- The value of a digit, letters counting on from ten. -/
def digitValue (c : Char) : Nat :=
  if c.isDigit then c.toNat - '0'.toNat
  else if c.isLower then c.toNat - 'a'.toNat + 10
  else if c.isUpper then c.toNat - 'A'.toNat + 10
  else 36

/-- A digit of a base. -/
def isDigitOf (base : Nat) (c : Char) : Bool :=
  digitValue c < base

/-- The number that digits of a base stand for. -/
def valueOf (base : Nat) (digits : List Char) : Nat :=
  digits.foldl (fun n c => n * base + digitValue c) 0

/-- A number without a sign. -/
def natOf? (base : Nat) (text : List Char) : Option Nat :=
  if text ≠ [] ∧ text.all (isDigitOf base) then some (valueOf base text) else none

/-- A decimal number with or without a sign. -/
def intOf? : List Char → Option Int
  | '-' :: digits => (natOf? 10 digits).map fun n => -(n : Int)
  | '+' :: digits => (natOf? 10 digits).map fun n => (n : Int)
  | digits => (natOf? 10 digits).map fun n => (n : Int)

/-- A blank of any kind, be it that a line or a page ends with it. -/
def isSpace (c : Char) : Bool :=
  c = ' ' || ('\t' ≤ c && c ≤ '\r')

/-- A text without the blanks around it. -/
def withoutBlanks (text : List Char) : List Char :=
  ((text.dropWhile isSpace).reverse.dropWhile isSpace).reverse

/-- The digits of a number in a base, at most `bound` of them. -/
def digitsFrom (base : Nat) : (bound : Nat) → Nat → List Char → List Char
  | 0, _, after => after
  | bound + 1, n, after =>
    let after := Nat.digitChar (n % base) :: after
    if n < base then after else digitsFrom base bound (n / base) after

/-- A number in a base. -/
def inBase (base n : Nat) : List Char :=
  digitsFrom base (n + 1) n []

end CheckMatrix.Text
