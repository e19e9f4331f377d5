/-
Reading a configuration file.

A document is a sequence of headers and settings, one to a line; arrays and inline tables may span
lines.  Reading either yields the whole document as a table or nothing: what exactly is wrong with a
file is not told.

The readers of values take a bound on their depth of calls that is larger than any text of the given
length can need, and the number of brackets that may still be opened inside each other.
-/
import CheckMatrix.Toml.Scalar
import CheckMatrix.Toml.Table

namespace CheckMatrix.Toml

/-! ### Between the tokens -/

/-- A text without the blanks at its front. -/
def skipSpaces (text : List Char) : List Char :=
  text.dropWhile isSpace

/-- A text without the blanks, line ends and comments at its front. -/
def skipFiller : (inComment : Bool) → List Char → Option (List Char)
  | _, [] => some []
  | inComment, c :: rest =>
    if c = '\n' then skipFiller false rest
    else if c = '\r' then if rest.head? = some '\n' then skipFiller false rest else none
    else if inComment then if isVisible c then skipFiller true rest else none
    else if isSpace c then skipFiller false rest
    else if c = '#' then skipFiller true rest
    else some (c :: rest)

/-- What follows the line that ends here, or nothing if something else stands on the line. -/
def endLine (text : List Char) : Option (List Char) :=
  match skipSpaces text with
  | [] => some []
  | '\n' :: rest => some rest
  | '\r' :: '\n' :: rest => some rest
  | '#' :: rest => skipFiller true rest
  | _ => none

/-! ### Keys -/

/-- A character of a key without quotes. -/
def isKeyChar (c : Char) : Bool :=
  c.isAlphanum || c = '_' || c = '-'

/-- Reads a key without dots. -/
def simpleKey? : List Char → Option (String × List Char)
  | '"' :: rest => (basicString 0 rest).map fun (key, rest) => (String.ofList key, rest)
  | '\'' :: rest => (literalString rest).map fun (key, rest) => (String.ofList key, rest)
  | text =>
    let key := text.takeWhile isKeyChar
    if key.isEmpty then none else some (String.ofList key, text.drop key.length)

/-- The number of names that a key may be made of, and of brackets that may be open at once. -/
def maxDepth : Nat := 80

/-- Reads a key of at most so many names: those in front of its dots, and the last one. -/
def names? : (bound : Nat) → List Char → Option (List String × String × List Char)
  | 0, _ => none
  | bound + 1, text =>
    match simpleKey? (skipSpaces text) with
    | none => none
    | some (name, rest) =>
      match skipSpaces rest with
      | '.' :: rest => (names? bound rest).map fun (path, last, rest) => (name :: path, last, rest)
      | rest => some ([], name, rest)

/-- Reads a key: the names in front of its dots, and the last one. -/
def key? (text : List Char) : Option (List String × String × List Char) :=
  names? maxDepth text

/-! ### Values -/

mutual

/-- Reads a value. -/
def value? : (bound depth : Nat) → List Char → Option (Value × List Char)
  | 0, _, _ => none
  | bound + 1, depth, text =>
    match text with
    | '[' :: rest =>
      match depth with
      | 0 => none
      | depth + 1 => (items? bound depth rest).map fun (items, rest) => (.array items, rest)
    | '{' :: rest =>
      match depth with
      | 0 => none
      | depth + 1 =>
        (members? bound depth (.mk false false []) rest).map fun (t, rest) => (t.toValue, rest)
    | _ =>
      match string? text with
      | some (s, rest) => some (.string (String.ofList s), rest)
      | none =>
        let shown := atom text
        (ofAtom? shown).map fun v => (v, text.drop shown.length)

/-- Reads the items of an array that are left, up to its closing bracket. -/
def items? : (bound depth : Nat) → List Char → Option (List Value × List Char)
  | 0, _, _ => none
  | bound + 1, depth, text => do
    let text ← skipFiller false text
    match text with
    | ']' :: rest => some ([], rest)
    | _ =>
      let (item, rest) ← value? bound depth text
      match ← skipFiller false rest with
      | ',' :: rest =>
        let (items, rest) ← items? bound depth rest
        some (item :: items, rest)
      | ']' :: rest => some ([item], rest)
      | _ => none

/-- Reads the settings of an inline table that are left, up to its closing brace. -/
def members? : (bound depth : Nat) → Table → List Char → Option (Table × List Char)
  | 0, _, _, _ => none
  | bound + 1, depth, t, text => do
    let text ← skipFiller false text
    match text with
    | '}' :: rest => some (t, rest)
    | _ =>
      let (path, key, rest) ← key? text
      match ← skipFiller false rest with
      | '=' :: rest =>
        let (value, rest) ← value? bound depth (← skipFiller false rest)
        let t ← t.insert? path key value
        match ← skipFiller false rest with
        | ',' :: rest => members? bound depth t rest
        | '}' :: rest => some (t, rest)
        | _ => none
      | _ => none

end

/-! ### Documents -/

/-- A document that is being read: the path of the table opened last, and everything so far. -/
structure Draft where
  opened : List String
  root : Table

/-- Reads a header, behind its first bracket. -/
def header? (draft : Draft) (text : List Char) : Option (Draft × List Char) := do
  let (isItem, text) := match text with
    | '[' :: rest => (true, rest)
    | _ => (false, text)
  let (path, key, rest) ← key? text
  let opened := path ++ [key]
  match rest with
  | ']' :: rest =>
    if isItem then
      match rest with
      | ']' :: rest => return (⟨opened, ← draft.root.openItem? path key⟩, rest)
      | _ => none
    else return (⟨opened, ← draft.root.open? path key⟩, rest)
  | _ => none

/-- Reads a setting. -/
def setting? (draft : Draft) (text : List Char) : Option (Draft × List Char) := do
  let (path, key, rest) ← key? text
  match rest with
  | '=' :: rest =>
    let (value, rest) ← value? (2 * rest.length + 2) maxDepth (skipSpaces rest)
    let root ← draft.root.descend false draft.opened (Table.insert? path key value)
    return (⟨draft.opened, root⟩, rest)
  | _ => none

/-- Reads the lines that are left. -/
def lines? : (bound : Nat) → Draft → List Char → Option Draft
  | 0, _, _ => none
  | bound + 1, draft, text => do
    let text ← skipFiller false text
    match text with
    | [] => some draft
    | '[' :: rest =>
      let (draft, rest) ← header? draft rest
      lines? bound draft (← endLine rest)
    | _ =>
      let (draft, rest) ← setting? draft text
      lines? bound draft (← endLine rest)

/-- The table that a document stands for. -/
def document? (text : String) : Option Value :=
  let chars := text.toList
  let chars := if chars.head? = some '\uFEFF' then chars.tail else chars
  (lines? (chars.length + 1) ⟨[], .empty⟩ chars).map fun draft => draft.root.toValue

end CheckMatrix.Toml
