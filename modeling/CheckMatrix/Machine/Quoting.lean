/-
Words in quotes.

Tools show words in one of two ways: between quotes, with a backslash in front of what cannot stand
there, or as a shell would read them, with quotes only where a shell needs them if that is asked
for.  In both ways only what can be seen is shown as it is, and other bytes by letters or octal
digits.  Which bytes can be seen depends on whether they are taken for the bytes of characters.
-/
import CheckMatrix.Machine.Call
import CheckMatrix.Text.Assigned
import CheckMatrix.Text.Numeral

namespace CheckMatrix.Quoting

/-! ### What can be seen -/

/-- A byte that is shown as it is. -/
def isPlain (b : UInt8) : Bool :=
  32 ≤ b && b < 127

/-- The bytes of a word one by one or, if it is `wide`, by characters, and whether they are shown as
they are; `skip` counts the bytes that a character has used up. -/
def units (wide : Bool) : (skip : Nat) → List UInt8 → List (List UInt8 × Bool)
  | _, [] => []
  | skip + 1, _ :: rest => units wide skip rest
  | 0, b :: rest =>
    match if wide then Text.firstChar b rest else (none, 0) with
    | (some c, size) => (b :: rest.take size, Text.isAssigned c) :: units wide size rest
    | (none, _) => ([b], isPlain b) :: units wide 0 rest

/-- The bytes that are shown by a letter. -/
def letters : List (UInt8 × Char) := [
  (7, 'a'), (8, 'b'), (9, 't'), (10, 'n'), (11, 'v'), (12, 'f'), (13, 'r')]

/-- A byte that is not shown as it is. -/
def code (b : UInt8) : List Char :=
  match letters.lookup b with
  | some letter => ['\\', letter]
  | none =>
    let digits := Text.inBase 8 b.toNat
    '\\' :: List.replicate (3 - digits.length) '0' ++ digits

/-- Bytes that are shown as they are. -/
def asIs (bytes : List UInt8) : List Char :=
  bytes.map fun b => Char.ofNat b.toNat

/-! ### Between quotes -/

/-- The quotes in front of a word and behind it. -/
def quotes (wide : Bool) : List UInt8 × List UInt8 :=
  if wide then (Text.encode ['‘'], Text.encode ['’']) else ([39], [39])

/-- A word in quotes. -/
def quoted (wide : Bool) (word : String) : String :=
  let (open_, close) := quotes wide
  let shown := (units wide 0 (Text.bytesOf word)).flatMap fun (bytes, isShown) =>
    if bytes = close || bytes = [92] then '\\' :: asIs bytes
    else if isShown then asIs bytes
    else bytes.flatMap code
  String.ofList (asIs open_ ++ shown ++ asIs close)

/-! ### As a shell would read it -/

/-- The characters that mean something to a shell wherever they stand. -/
def special : List Char := " !\"$&'()*;<=>?[\\^\x60|".toList

/-- A shell would not take the word as it is. -/
def needsQuotes (wide : Bool) (bytes : List UInt8) : Bool :=
  let isOdd : List UInt8 × Bool → Bool := fun (unit, isShown) =>
    !isShown || (asIs unit).any special.contains
  bytes.isEmpty || (units wide 0 bytes).any isOdd || bytes.head? = some 35 ||
    bytes.head? = some 126 || bytes = [123] || bytes = [125]

/-- Double quotes around the word would do. -/
def suitsDoubleQuotes (wide : Bool) (bytes : List UInt8) : Bool :=
  (units wide 0 bytes).all fun (unit, isShown) =>
    isShown && !(asIs unit).any "!\"$&()*;<=>?[\\^\x60|".toList.contains

/-- The bytes of a word behind a single quote, up to the one that closes it; `isOpen` tells that
codes are open. -/
def betweenQuotes : (isOpen : Bool) → List (List UInt8 × Bool) → List Char
  | _, [] => ['\'']
  | isOpen, (unit, isShown) :: rest =>
    if unit = [39] then '\'' :: '\\' :: '\'' :: '\'' :: betweenQuotes false rest
    else if isShown then
      (if isOpen then ['\'', '\''] else []) ++ asIs unit ++ betweenQuotes false rest
    else
      (if isOpen then [] else ['\'', '$', '\'']) ++ unit.flatMap code ++ betweenQuotes true rest

/-- A word as a shell would read it, always with quotes. -/
def shellWord (wide : Bool) (word : String) : String :=
  let bytes := Text.bytesOf word
  if bytes.contains 39 && suitsDoubleQuotes wide bytes then "\"" ++ word ++ "\""
  else String.ofList ('\'' :: betweenQuotes false (units wide 0 bytes))

/-- A word as a shell would read it, with quotes where it needs them. -/
def shellWordIfOdd (wide : Bool) (word : String) : String :=
  if needsQuotes wide (Text.bytesOf word) then shellWord wide word else word

end CheckMatrix.Quoting

namespace CheckMatrix.Call

open Quoting

/-! ### Words in messages -/

/-- The variables that choose how texts are treated, apart from those that stand for all. -/
def localeNames : List String := [
  "LC_CTYPE", "LC_NUMERIC", "LC_TIME", "LC_COLLATE", "LC_MONETARY", "LC_MESSAGES", "LC_PAPER",
  "LC_NAME", "LC_ADDRESS", "LC_TELEPHONE", "LC_MEASUREMENT", "LC_IDENTIFICATION"]

/-- The first of some variables that is set to something, or else the plain locale. -/
def localeOf (c : Call) (names : List String) : String :=
  ((names.filterMap fun name => c.env.lookup name).find? fun value => !value.isEmpty).getD "C"

/-- The locale whose characters have several bytes. -/
def isWideLocale (name : String) : Bool :=
  match name.toList with
  | 'C' :: '.' :: charset =>
    String.ofList ((charset.filter Char.isAlphanum).map Char.toLower) = "utf8"
  | _ => false

/-- The bytes of words are taken for those of characters, which takes locales that there are. -/
def isWide (c : Call) : Bool :=
  let chosen (name : String) : String := c.localeOf ["LC_ALL", name, "LANG"]
  (localeNames.all fun name =>
    ["C", "POSIX"].contains (chosen name) || isWideLocale (chosen name)) &&
    isWideLocale (chosen "LC_CTYPE")

/-- A word in quotes. -/
def quoted (c : Call) (word : String) : String :=
  Quoting.quoted c.isWide word

/-- A word as a shell would read it, always with quotes. -/
def shellWord (c : Call) (word : String) : String :=
  Quoting.shellWord c.isWide word

/-- A word as a shell would read it, with quotes where it needs them. -/
def shellWordIfOdd (c : Call) (word : String) : String :=
  Quoting.shellWordIfOdd c.isWide word

end CheckMatrix.Call
