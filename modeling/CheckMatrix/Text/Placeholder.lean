/-
Placeholders in template texts.

A placeholder is a name between braces, such as `{feature}`.  Braces around anything else are
ordinary characters, and so is a brace behind a dollar sign, since it belongs to a variable.
`scan` cuts a text into plain characters and placeholders without losing anything, and
`interpolate` fills in the placeholders that a binding knows.  Values are inserted as they are:
what they hold is never scanned again.
-/
import CheckMatrix.Text.Marks

namespace CheckMatrix

/-- The value of each axis in one combination. -/
abbrev Binding := List (String × String)

/-- A part of a template text. -/
inductive Piece
  | plain (c : Char)
  | axis (name : String)
  deriving DecidableEq, Repr

namespace Piece

/-- The characters that axis names are made of. -/
def isNameChar (c : Char) : Bool :=
  c.isAlphanum || c = '_' || c = '-'

/-- The name that an opening brace in front of this text opens a placeholder for. -/
def opened? (text : List Char) : Option (List Char) :=
  let name := text.takeWhile isNameChar
  if name ≠ [] ∧ (text.drop name.length).head? = some '}' then some name else none

/-- Whether a brace behind this character belongs to a variable. -/
def guards (c : Char) : Bool :=
  c = '$' || c = Marks.literalDollar

/-- Scans a text.  `skip` counts the characters that a placeholder has used up already, and
`guarded` tells whether the character before was a dollar sign. -/
def scanFrom : (skip : Nat) → (guarded : Bool) → List Char → List Piece
  | _, _, [] => []
  | skip + 1, _, _ :: rest => scanFrom skip false rest
  | 0, guarded, c :: rest =>
    match (if c = '{' ∧ !guarded then opened? rest else none) with
    | some name => .axis (String.ofList name) :: scanFrom (name.length + 1) false rest
    | none => .plain c :: scanFrom 0 (guards c) rest

/-- The pieces of a text, in order. -/
def scan (text : String) : List Piece :=
  scanFrom 0 false text.toList

/-- The characters a piece was read from. -/
def render : Piece → List Char
  | .plain c => [c]
  | .axis name => '{' :: (name.toList ++ ['}'])

/-- The characters a piece becomes under a binding; an unbound placeholder stays as written. -/
def fill (binding : Binding) : Piece → List Char
  | .plain c => [c]
  | .axis name =>
    match binding.lookup name with
    | some value => value.toList
    | none => render (.axis name)

/-- The name of a placeholder. -/
def axis? : Piece → Option String
  | .plain _ => none
  | .axis name => some name

end Piece

/-- The text with every bound placeholder replaced by its value. -/
def interpolate (text : String) (binding : Binding) : String :=
  String.ofList ((Piece.scan text).flatMap (Piece.fill binding))

end CheckMatrix
