/-
Patterns for names.

A pattern is a list of matchers: a character, any character, any run of characters, or one of a set.
A quoted character always stands for itself.
-/
import CheckMatrix.Machine.World

namespace CheckMatrix.Shell

/-- A character with whether it is quoted. -/
abbrev Mark := Char × Bool

/-- A member of a set of characters: everything between two of them, or a kind with a name. -/
inductive Member
  | range (first last : Char)
  | kind (name : String)
  deriving DecidableEq, Repr

/-- A part of a pattern. -/
inductive Matcher
  | char (c : Char)
  | any
  | run
  | oneOf (negated : Bool) (members : List Member)
  deriving DecidableEq, Repr

/-- A printable character that is no letter, digit or blank. -/
def isPunctuation (c : Char) : Bool :=
  '!' ≤ c && c ≤ '~' && !c.isAlphanum

/-- The kinds of characters that have a name. -/
def kinds : List (String × (Char → Bool)) := [
  ("alnum", Char.isAlphanum),
  ("alpha", Char.isAlpha),
  ("blank", fun c => c = ' ' || c = '\t'),
  ("cntrl", fun c => c < ' ' || c = '\x7f'),
  ("digit", Char.isDigit),
  ("graph", fun c => '!' ≤ c && c ≤ '~'),
  ("lower", Char.isLower),
  ("print", fun c => ' ' ≤ c && c ≤ '~'),
  ("punct", isPunctuation),
  ("space", fun c => c = ' ' || ('\t' ≤ c && c ≤ '\r')),
  ("upper", Char.isUpper),
  ("xdigit", fun c => c.isDigit || ('a' ≤ c && c ≤ 'f') || ('A' ≤ c && c ≤ 'F'))]

/-- The character is a member. -/
def Member.holds (c : Char) : Member → Bool
  | .range first last => first ≤ c && c ≤ last
  | .kind name => ((kinds.lookup name).map (· c)).getD false

namespace Pattern

/-- A character that is not quoted. -/
def isBare (m : Mark) (c : Char) : Bool :=
  m.1 = c && !m.2

/-- The kind of characters named at the front of a text, behind an opening bracket, and the length
of its name with the colons and the closing bracket. -/
def kind? (marks : List Mark) : Option (String × Nat) :=
  match marks with
  | colon :: rest =>
    let name := String.ofList ((rest.takeWhile fun m => m.1.isAlpha).map Prod.fst)
    let isNamed := (kinds.lookup name).isSome &&
      match rest.drop name.length with
      | colon :: bracket :: _ => isBare colon ':' && isBare bracket ']'
      | _ => false
    if isBare colon ':' && isNamed then some (name, name.length + 3) else none
  | [] => none

/-- The members of a set up to the bracket that closes it, with the number of characters read.  A
bracket that comes first does not close the set; `skip` counts the characters that belong to a
member already read. -/
def members : (isFirst : Bool) → (skip : Nat) → List Mark → Option (List Member × Nat)
  | _, _, [] => none
  | _, skip + 1, _ :: rest => (members false skip rest).map fun (found, size) => (found, size + 1)
  | isFirst, 0, m :: rest =>
    if isBare m ']' && !isFirst then some ([], 1)
    else
      let (member, size) :=
        match if isBare m '[' then kind? rest else none, rest with
        | some (name, size), _ => (Member.kind name, size)
        | none, dash :: last :: _ =>
          if isBare dash '-' && !isBare last ']' then (.range m.1 last.1, 2)
          else (.range m.1 m.1, 0)
        | none, _ => (.range m.1 m.1, 0)
      (members false size rest).map fun (found, count) => (member :: found, count + 1)

/-- The set at the front of a text, behind its opening bracket, and its length. -/
def set? (marks : List Mark) : Option (Matcher × Nat) :=
  let negated := (marks.head?.map fun m => isBare m '!').getD false
  (members true 0 (if negated then marks.tail else marks)).map fun (found, size) =>
    (.oneOf negated found, size + if negated then 1 else 0)

/-- A text with a backslash that is not quoted taken for what it is, a protection of what follows
it.  It can only come from a value. -/
def settled : List Mark → List Mark
  | [] => []
  | [m] => [m]
  | m :: next :: rest =>
    if isBare m '\\' then (next.1, true) :: settled rest else m :: settled (next :: rest)

/-- Something in the text makes it a pattern. -/
def isPattern : List Mark → Bool
  | [] => false
  | m :: rest => isBare m '*' || isBare m '?' || (isBare m '[' && (set? rest).isSome) ||
      isPattern rest

/-- The pattern that a text is; `skip` counts the characters of a set already read. -/
def ofMarks : (skip : Nat) → List Mark → List Matcher
  | _, [] => []
  | skip + 1, _ :: rest => ofMarks skip rest
  | 0, m :: rest =>
    if isBare m '*' then .run :: ofMarks 0 rest
    else if isBare m '?' then .any :: ofMarks 0 rest
    else if isBare m '[' then
      match set? rest with
      | some (matcher, size) => matcher :: ofMarks size rest
      | none => .char '[' :: ofMarks 0 rest
    else .char m.1 :: ofMarks 0 rest

/-- The ends of a text, the longest first. -/
def ends : List Char → List (List Char)
  | [] => [[]]
  | c :: rest => (c :: rest) :: ends rest

/-- A text has the form of a pattern. -/
def matches_ : List Matcher → List Char → Bool
  | [], text => text.isEmpty
  | .run :: rest, text => (ends text).any (matches_ rest)
  | .char c :: rest, d :: text => c = d && matches_ rest text
  | .any :: rest, _ :: text => matches_ rest text
  | .oneOf negated found :: rest, d :: text =>
    ((found.any (Member.holds d)) != negated) && matches_ rest text
  | _, [] => false

/-- The marks of a text that is not quoted. -/
def fits (pattern : List Mark) (text : String) : Bool :=
  matches_ (ofMarks 0 (settled pattern)) text.toList

/-! ### Cutting off what a pattern fits -/

/-- What stands in a text in front of the character that no text holds. -/
def upToEnd (text : List Char) : List Char :=
  text.takeWhile (· ≠ '\x00')

/-- The sizes of the beginnings of a text, the shortest first and none that goes beyond the character
that no text holds, or the longest first. -/
def sizes (shortestFirst : Bool) (text : List Char) : List Nat :=
  if shortestFirst then List.range ((upToEnd text).length + 1)
  else (List.range (text.length + 1)).reverse

/-- A text without the shortest or longest beginning that a pattern fits. -/
def cutFront (pattern : List Mark) (longest : Bool) (text : List Char) : List Char :=
  let form := ofMarks 0 (settled pattern)
  match (sizes (!longest) text).find? fun n => matches_ form (upToEnd (text.take n)) with
  | some n => text.drop n
  | none => text

/-- A text without the shortest or longest end that a pattern fits. -/
def cutBack (pattern : List Mark) (longest : Bool) (text : List Char) : List Char :=
  let form := ofMarks 0 (settled pattern)
  match (sizes longest text).find? fun n => matches_ form (upToEnd (text.drop n)) with
  | some n => text.take n
  | none => text

/-! ### Paths -/

/-- Marks cut at slashes. -/
def cutAtSlashes : List Mark → List (List Mark)
  | [] => [[]]
  | m :: rest =>
    match cutAtSlashes rest with
    | field :: fields => if m.1 = '/' then [] :: field :: fields else (m :: field) :: fields
    | [] => [[m]]

/-- The names in a directory that a pattern fits; a dot in front has to be written. -/
def namesIn (t : FileTree) (dir : String) (pattern : List Mark) : List String :=
  match t.find (.ofPacked (if dir.isEmpty then "." else dir)) with
  | .ok (l, .dir) =>
    let names := ".." :: "." :: (t.children l).filterMap fun child =>
      child.getLast?.map fun name => Text.ofBytes name.bytes
    (names.filter fun name =>
      fits pattern name &&
        (name.toList.head? ≠ some '.' || pattern.head?.map Prod.fst = some '.')).mergeSort
      fun a b => a ≤ b
  | _ => []

/-- The paths that begin in some directories and go on under patterns. -/
def pathsFrom (t : FileTree) : List (List Mark) → List String → List String
  | [], starts => starts
  | field :: rest, starts =>
    let slash := if rest.isEmpty then "" else "/"
    let named := if isPattern field then
        starts.flatMap fun dir => (namesIn t dir field).map fun name => dir ++ name ++ slash
      else starts.map fun dir => dir ++ String.ofList (field.map Prod.fst) ++ slash
    pathsFrom t rest named

/-- The path leads to an entry, which may be a symbolic link to nowhere. -/
def isEntry (t : FileTree) (path : String) : Bool :=
  match t.resolve (.ofPacked path) .entry with
  | .ok (.found ..) => true
  | _ => false

/-- The characters that can make a text a pattern. -/
def isSign (c : Char) : Bool :=
  c = '*' || c = '?' || c = '['

/-- The text that a field is when it stands for itself. -/
def plainText (field : List Mark) : String :=
  String.ofList (field.map Prod.fst)

/-- The paths that a field stands for: those that are there, or the field itself when none is. -/
def paths (t : FileTree) (field : List Mark) : List String :=
  match (pathsFrom t (cutAtSlashes (settled field)) [""]).filter (isEntry t) with
  | [] => [plainText field]
  | found => found

/-- What a field stands for in a world, which need not be looked at unless something in the field can
make it a pattern. -/
def pathsIn (w : World) (field : List Mark) : List String :=
  if field.any fun m => isSign m.1 then paths w.tree field else [plainText field]

end Pattern

end CheckMatrix.Shell
