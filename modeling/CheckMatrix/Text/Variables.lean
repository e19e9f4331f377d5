/-
Variable references in texts.

A dollar sign opens a reference: `$NAME`, `${NAME}` or, with a text to use when the variable is
missing, `${NAME:-text}`.  Two dollar signs stand for one, and any other dollar sign for itself.
The values are inserted as they are: what they hold is never looked at again.

A leading tilde stands for the home directory when a slash or the end of the text follows it.
-/
import CheckMatrix.Text.Alphanumeric

namespace CheckMatrix.Variables

/-- The variable that a text refers to and nobody defines. -/
structure Undefined where
  name : String
  deriving DecidableEq, Repr

/-- What is reported about it. -/
def Undefined.message (e : Undefined) : String :=
  "error looking key '" ++ e.name ++ "' up: environment variable not found"

/-- A reference behind a dollar sign: the variable, the text to use in its place when it is
missing, and how many characters the reference takes. -/
structure Reference where
  name : List Char
  fallback : Option (List Char)
  size : Nat
  deriving DecidableEq, Repr

/-- The characters of a name that stands without braces. -/
def isNameChar (c : Char) : Bool :=
  Text.isAlphanumeric c || c = '_'

/-- Cuts a text at the first `:-`. -/
def cutFallback : List Char → Option (List Char × List Char)
  | [] => none
  | c :: rest =>
    if c = ':' ∧ rest.head? = some '-' then some ([], rest.tail)
    else (cutFallback rest).map fun (name, fallback) => (c :: name, fallback)

/-- A reference from what its braces hold.  Without a name in front of it, `:-` is part of the
name. -/
def Reference.ofBraced (body : List Char) : Reference :=
  match cutFallback body with
  | some (c :: name, fallback) => ⟨c :: name, some fallback, body.length + 2⟩
  | _ => ⟨body, none, body.length + 2⟩

/-- The reference that a dollar sign in front of this text opens. -/
def Reference.opened? : List Char → Option Reference
  | [] => none
  | c :: rest =>
    if c = '{' then
      let body := rest.takeWhile (· ≠ '}')
      if body.length < rest.length then some (.ofBraced body) else none
    else
      let name := (c :: rest).takeWhile isNameChar
      if name = [] then none else some ⟨name, none, name.length⟩

/-- The text that takes the place of a reference. -/
def Reference.value (lookup : String → Option String) (r : Reference) :
    Except Undefined (List Char) :=
  match lookup (String.ofList r.name), r.fallback with
  | some value, _ => .ok value.toList
  | none, some fallback => .ok fallback
  | none, none => .error ⟨String.ofList r.name⟩

/-- Replaces the references of a text.  `skip` counts the characters that a reference has used up
already. -/
def substituteFrom (lookup : String → Option String) :
    (skip : Nat) → List Char → Except Undefined (List Char)
  | _, [] => .ok []
  | skip + 1, _ :: rest => substituteFrom lookup skip rest
  | 0, c :: rest =>
    if c ≠ '$' then (substituteFrom lookup 0 rest).map (c :: ·)
    else
      match Reference.opened? rest with
      | some r =>
        match r.value lookup with
        | .error e => .error e
        | .ok value => (substituteFrom lookup r.size rest).map (value ++ ·)
      | none =>
        (substituteFrom lookup (if rest.head? = some '$' then 1 else 0) rest).map ('$' :: ·)

/-- The text with every reference replaced by its value. -/
def substitute (lookup : String → Option String) (text : String) : Except Undefined String :=
  (substituteFrom lookup 0 text.toList).map String.ofList

/-- The text with a leading tilde replaced by the home directory. -/
def expandTilde (home : Option String) (text : String) : String :=
  match text.toList, home with
  | '~' :: rest, some dir =>
    if rest = [] ∨ rest.head? = some '/' then dir ++ String.ofList rest else text
  | _, _ => text

end CheckMatrix.Variables
