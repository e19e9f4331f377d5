/-
Scalars of a configuration file.

Strings come in four kinds: in double quotes with escapes or in single quotes without, each on one
line or, behind three quotes, on several.  Everything else that is no table and no array is written
without quotes and told apart by its form: truth values, integers, floating-point numbers, and
points in time.
-/
import CheckMatrix.Text.Cut
import CheckMatrix.Text.Numeral
import CheckMatrix.Toml.Value

namespace CheckMatrix.Toml

/-! ### Characters -/

/-- A blank inside a line. -/
def isSpace (c : Char) : Bool :=
  c = ' ' || c = '\t'

/-- A character that strings and comments may hold. -/
def isVisible (c : Char) : Bool :=
  c = '\t' || (0x20 ≤ c.toNat && c.toNat ≠ 0x7f)

/-- A digit of a number that is not decimal. -/
def isHexDigit (c : Char) : Bool :=
  c.isDigit || ('a' ≤ c && c ≤ 'f') || ('A' ≤ c && c ≤ 'F')

/-- The value of a hexadecimal digit. -/
def hexValue (c : Char) : Nat :=
  if c.isDigit then c.toNat - '0'.toNat
  else if 'a' ≤ c ∧ c ≤ 'f' then c.toNat - 'a'.toNat + 10
  else c.toNat - 'A'.toNat + 10

/-- A number from its digits to a base. -/
def ofDigits (base : Nat) (digits : List Char) : Nat :=
  digits.foldl (fun n c => n * base + hexValue c) 0

/-! ### Strings -/

/-- The character with a number, if there is one. -/
def scalarValue? (n : Nat) : Option Char :=
  if n < 0xD800 ∨ (0xDFFF < n ∧ n < 0x110000) then some (Char.ofNat n) else none

/-- A character given by so many hexadecimal digits. -/
def numbered? (digits : Nat) (text : List Char) : Option (Char × Nat) :=
  let shown := text.take digits
  if shown.length = digits ∧ shown.all isHexDigit then
    (scalarValue? (ofDigits 16 shown)).map fun c => (c, digits + 1)
  else none

/-- The character that a backslash in front of this text stands for, and how many characters it
takes. -/
def escape? : List Char → Option (Char × Nat)
  | [] => none
  | c :: rest =>
    if c = 'b' then some ('\x08', 1)
    else if c = 't' then some ('\t', 1)
    else if c = 'n' then some ('\n', 1)
    else if c = 'f' then some ('\x0c', 1)
    else if c = 'r' then some ('\r', 1)
    else if c = 'e' then some ('\x1b', 1)
    else if c = '"' then some ('"', 1)
    else if c = '\\' then some ('\\', 1)
    else if c = 'x' then numbered? 2 rest
    else if c = 'u' then numbered? 4 rest
    else if c = 'U' then numbered? 8 rest
    else none

/-- Reads a string on one line, behind its opening double quote; `skip` counts the characters that
an escape has used up. -/
def basicString : (skip : Nat) → List Char → Option (List Char × List Char)
  | _, [] => none
  | skip + 1, _ :: rest => basicString skip rest
  | 0, c :: rest =>
    if c = '"' then some ([], rest)
    else if c = '\\' then
      match escape? rest with
      | some (meant, size) => (basicString size rest).map fun (text, rest) => (meant :: text, rest)
      | none => none
    else if isVisible c then (basicString 0 rest).map fun (text, rest) => (c :: text, rest)
    else none

/-- Reads a string on one line, behind its opening single quote. -/
def literalString : List Char → Option (List Char × List Char)
  | [] => none
  | c :: rest =>
    if c = '\'' then some ([], rest)
    else if isVisible c then (literalString rest).map fun (text, rest) => (c :: text, rest)
    else none

/-- The number of characters in the blanks and line ends at the front of a text. -/
def gapLength : List Char → Nat
  | [] => 0
  | c :: rest =>
    if isSpace c || c = '\n' || (c = '\r' && rest.head? = some '\n') then gapLength rest + 1 else 0

/-- How many characters a backslash at the end of a line takes: the blanks and line ends up to the
next visible character, if there is a line end among them. -/
def continuation? (text : List Char) : Option Nat :=
  match text.dropWhile isSpace with
  | '\n' :: _ => some (gapLength text)
  | '\r' :: '\n' :: _ => some (gapLength text)
  | _ => none

/-- A character that a string on several lines may hold in front of the given text. -/
def isMultiline (c : Char) (rest : List Char) : Bool :=
  c = '\n' || isVisible c || (c = '\r' && rest.head? = some '\n')

/-- How many of the quotes at the front belong to a string on several lines that ends with them;
with fewer than three it does not end. -/
def closing? (quote : Char) (text : List Char) : Option Nat :=
  let quotes := (text.takeWhile (· = quote)).length
  if quotes < 3 then none else some (quotes - 3)

/-- Reads a string on several lines, behind its opening double quotes. -/
def multilineBasic : (skip : Nat) → List Char → Option (List Char × List Char)
  | _, [] => none
  | skip + 1, _ :: rest => multilineBasic skip rest
  | 0, c :: rest =>
    match closing? '"' (c :: rest) with
    | some quotes =>
      if quotes ≤ 2 then some (List.replicate quotes '"', rest.drop (quotes + 2)) else none
    | none =>
      if c = '\\' then
        match continuation? rest, escape? rest with
        | some size, _ => multilineBasic size rest
        | none, some (meant, size) =>
          (multilineBasic size rest).map fun (text, rest) => (meant :: text, rest)
        | none, none => none
      else if isMultiline c rest then
        (multilineBasic 0 rest).map fun (text, rest) => (c :: text, rest)
      else none

/-- Reads a string on several lines, behind its opening single quotes. -/
def multilineLiteral : List Char → Option (List Char × List Char)
  | [] => none
  | c :: rest =>
    match closing? '\'' (c :: rest) with
    | some quotes =>
      if quotes ≤ 2 then some (List.replicate quotes '\'', rest.drop (quotes + 2)) else none
    | none =>
      if isMultiline c rest then
        (multilineLiteral rest).map fun (text, rest) => (c :: text, rest)
      else none

/-- A text without the line end at its front. -/
def dropFirstLineEnd : List Char → List Char
  | '\n' :: rest => rest
  | '\r' :: '\n' :: rest => rest
  | text => text

/-- Reads a string of any kind. -/
def string? : List Char → Option (List Char × List Char)
  | '"' :: '"' :: '"' :: rest => multilineBasic 0 (dropFirstLineEnd rest)
  | '\'' :: '\'' :: '\'' :: rest => multilineLiteral (dropFirstLineEnd rest)
  | '"' :: rest => basicString 0 rest
  | '\'' :: rest => literalString rest
  | _ => none

/-! ### Numbers -/

/-- A text without a sign at its front. -/
def unsigned : List Char → List Char
  | '+' :: rest => rest
  | '-' :: rest => rest
  | text => text

/-- The value of digits that may have underscores between them. -/
def digitsValue (base : Nat) (text : List Char) : Nat :=
  ofDigits base (text.filter (· ≠ '_'))

/-- What stands behind underscores begins with a digit, and with another underscore behind it ends
with one unless it is a single character. -/
def partsFit (isDigit : Char → Bool) : List (List Char) → Bool
  | [] => true
  | part :: rest =>
    (part.head?.map isDigit).getD false &&
      (rest.isEmpty || part.length = 1 || (part.getLast?.map isDigit).getD false) &&
      partsFit isDigit rest

/-- The underscores in a number stand between digits.  A sign in front of one takes the place of a
digit. -/
def isSeparated (isDigit : Char → Bool) (text : List Char) : Bool :=
  match Text.cut (· = '_') text with
  | first :: second :: rest =>
    (first.length = 1 || (first.getLast?.map isDigit).getD false) &&
      partsFit isDigit (second :: rest)
  | _ => true

/-- An integer, if 128 bits can hold it. -/
def ofInteger (n : Int) : Value :=
  if -(Nat.pow 2 127 : Int) ≤ n ∧ n < Nat.pow 2 128 then .integer n else .unreadable

/-- Reads the digits of an integer to a base other than ten.  Without digits it is a number that
cannot be read. -/
def based? (base : Nat) (digits : List Char) : Option Value :=
  if digits.all (fun c => c = '_' || Text.isDigitOf base c) && isSeparated isHexDigit digits then
    some (if digits.isEmpty then .unreadable else ofInteger (digitsValue base digits))
  else none

/-- Reads an integer that begins with a digit, a sign or an underscore.  Behind the first underscore
anything may stand; what is no digit makes it a number that cannot be read. -/
def decimal? (text : List Char) : Option Value :=
  let digits := (unsigned text).filter (· ≠ '_')
  let hasNeedlessZero := (unsigned text).head? = some '0' && (unsigned text).length > 1
  if hasNeedlessZero || !isSeparated isHexDigit text then none
  else if digits.all Char.isDigit then
    let n : Int := ofDigits 10 digits
    some (ofInteger (if text.head? = some '-' then -n else n))
  else some .unreadable

/-- A number so large that it rounds to infinity: its digits, how many of them are decimals, and its
exponent. -/
def isTooLarge (digits : List Char) (decimals : Nat) (exponent : Int) : Bool :=
  let significant := (digits.filter (· ≠ '_')).dropWhile (· = '0')
  let places : Int := significant.length + exponent - decimals
  if significant.isEmpty || places < 300 then false
  else if 310 < places then true
  else
    let scale : Int := exponent - decimals
    let n := ofDigits 10 significant * Nat.pow 10 scale.toNat
    n ≥ (Nat.pow 2 1024 - Nat.pow 2 970) * Nat.pow 10 (-scale).toNat

/-- Characters of which some are digits and the others underscores. -/
def holdsDigits (text : List Char) : Bool :=
  text.any Char.isDigit && text.all fun c => c.isDigit || c = '_'

/-- Reads a floating-point number. -/
def float? (text : List Char) : Option Value :=
  let body := unsigned text
  let whole := body.takeWhile fun c => c ≠ '.' ∧ c ≠ 'e' ∧ c ≠ 'E'
  let behind := body.drop whole.length
  let fraction :=
    if behind.head? = some '.' then behind.tail.takeWhile fun c => c ≠ 'e' ∧ c ≠ 'E' else []
  let exponent := if behind.head? = some '.' then behind.drop (fraction.length + 1) else behind
  let hasNeedlessZero := whole.head? = some '0' && (whole.filter Char.isDigit).length > 1
  let power : Int := digitsValue 10 (unsigned exponent.tail)
  let signed := if exponent.tail.head? = some '-' then -power else power
  if holdsDigits whole && !hasNeedlessZero && !behind.isEmpty &&
      (behind.head? ≠ some '.' || holdsDigits fraction) &&
      (exponent.isEmpty || holdsDigits (unsigned exponent.tail)) &&
      isSeparated Char.isDigit text then
    some (if isTooLarge (whole ++ fraction) (fraction.filter (· ≠ '_')).length signed then
      .unreadable
    else .float (String.ofList text))
  else none

/-! ### Points in time -/

/-- A number of exactly so many digits in a range. -/
def fits (digits low high : Nat) (text : List Char) : Bool :=
  text.length = digits && text.all Char.isDigit &&
    low ≤ ofDigits 10 text && ofDigits 10 text ≤ high

/-- The number of days of a month. -/
def daysOf (year month : Nat) : Nat :=
  if month = 2 then
    if year % 4 = 0 ∧ (year % 100 ≠ 0 ∨ year % 400 = 0) then 29 else 28
  else if month = 4 ∨ month = 6 ∨ month = 9 ∨ month = 11 then 30
  else 31

/-- A date such as 1979-05-27. -/
def isDate (text : List Char) : Bool :=
  let year := text.take 4
  let month := (text.drop 5).take 2
  text.length = 10 && text[4]? = some '-' && text[7]? = some '-' &&
    fits 4 0 9999 year && fits 2 1 12 month &&
    fits 2 1 (daysOf (ofDigits 10 year) (ofDigits 10 month)) (text.drop 8)

/-- A time of day such as 07:32:00.5, with or without seconds. -/
def isTime (text : List Char) : Bool :=
  let seconds := text.drop 5
  let decimals := seconds.drop 3
  fits 2 0 23 (text.take 2) && text[2]? = some ':' && fits 2 0 59 ((text.drop 3).take 2) &&
    (seconds.isEmpty ||
      (seconds.head? = some ':' && fits 2 0 60 ((seconds.drop 1).take 2) &&
        (decimals.isEmpty ||
          (decimals.head? = some '.' && !decimals.tail.isEmpty && decimals.tail.all Char.isDigit))))

/-- A time of day as it is written out: with seconds, and with at most nine decimals, the last of
which is no zero. -/
def plainTime (text : List Char) : List Char :=
  let seconds := if text.length < 8 then [':', '0', '0'] else (text.drop 5).take 3
  let decimals := (((text.drop 9).take 9).reverse.dropWhile (· = '0')).reverse
  text.take 5 ++ seconds ++ if decimals.isEmpty then [] else '.' :: decimals

/-- A distance from universal time, or its letter. -/
def isOffset : List Char → Bool
  | [c] => c = 'Z' || c = 'z'
  | c :: rest =>
    (c = '+' || c = '-') && rest.length = 5 && rest[2]? = some ':' && fits 2 0 23 (rest.take 2) &&
      fits 2 0 59 (rest.drop 3)
  | [] => false

/-- A distance from universal time as it is written out: no distance has a plus sign. -/
def plainOffset (text : List Char) : List Char :=
  if text = ['z'] then ['Z']
  else if text = "-00:00".toList then "+00:00".toList
  else text

/-- Reads a time of day, possibly with a distance from universal time, and writes it out. -/
def offsetTime? (text : List Char) : Option (List Char) :=
  let time := text.takeWhile fun c => c.isDigit || c = ':' || c = '.'
  let offset := text.drop time.length
  if isTime time && (offset.isEmpty || isOffset offset) then
    some (plainTime time ++ plainOffset offset)
  else none

/-- Reads a point in time: a date, a time of day, or both with a separator between them. -/
def datetime? (text : List Char) : Option Value :=
  let separator := text[10]?
  if isDate text then some (.datetime (String.ofList text))
  else if isTime text then some (.datetime (String.ofList (plainTime text)))
  else if isDate (text.take 10) &&
      (separator = some 'T' || separator = some 't' || separator = some ' ') then
    (offsetTime? (text.drop 11)).map fun time =>
      .datetime (String.ofList (text.take 10 ++ 'T' :: time))
  else none

/-! ### Values without quotes -/

/-- A character of a value without quotes. -/
def isAtomChar (c : Char) : Bool :=
  !"=,[]\x7b\x7d#\r\n\t ".toList.contains c

/-- The characters of a value without quotes at the front of a text.  A date takes a time of day
behind a single blank with it. -/
def atom (text : List Char) : List Char :=
  let first := text.takeWhile isAtomChar
  match text.drop first.length with
  | ' ' :: c :: rest =>
    if isDate first ∧ c.isDigit then first ++ ' ' :: (c :: rest).takeWhile isAtomChar else first
  | _ => first

/-- The value of a text that begins with a digit or an underscore behind its sign, if it has one:
what follows the first digits tells points in time, floating-point numbers and integers apart. -/
def ofDigitsFirst? (text : List Char) : Option Value :=
  let behind := (unsigned text).dropWhile Char.isDigit
  match behind with
  | [] => decimal? text
  | c :: _ =>
    if c = '-' ∨ c = ':' then datetime? text
    else if behind.any fun c => c = '.' || c = 'e' || c = 'E' then float? text
    else if c = '_' then decimal? text
    else none

/-- The value that an atom stands for. -/
def ofAtom? (text : List Char) : Option Value :=
  match text with
  | '0' :: 'x' :: digits => based? 16 digits
  | '0' :: 'o' :: digits => based? 8 digits
  | '0' :: 'b' :: digits => based? 2 digits
  | _ =>
    if text = "true".toList then some (.boolean true)
    else if text = "false".toList then some (.boolean false)
    else if unsigned text = "inf".toList ∨ unsigned text = "nan".toList then
      some (.float (String.ofList text))
    else
      match unsigned text with
      | c :: _ => if c.isDigit ∨ c = '_' then ofDigitsFirst? text else none
      | [] => none

end CheckMatrix.Toml
