/-
Reading scripts.

A script is read from left to right by functions that call each other as its parts contain each
other.  Each call carries a bound on the depth of the calls below it; every character is looked at
by a fixed number of nested calls, so a bound in proportion to the length of the text is never
reached.  What cannot be read is refused at a line, with the reason.

A line goes on behind its end if a backslash stands there that no other one protects.  Such ends are
taken out of a text before it is read, and their places are remembered for the few parts of a script
in which a backslash is a character like others.

A document that a redirection announces is read behind the end of the line; it is kept in a list,
and the redirection knows its place there.
-/
import CheckMatrix.Shell.State
import CheckMatrix.Text.Cut

namespace CheckMatrix.Shell

/-! ### Refusals -/

/-- Why a text is no script. -/
inductive Fault
  | unexpected (token : String) (expected : Option String)
  | unterminatedQuote
  | unterminatedBackquote
  | missing (token : String)
  | badLoopVariable
  | badFunctionName
  deriving DecidableEq, Repr

/-- What is said about it. -/
def Fault.message : Fault → String
  | unexpected token none => "Syntax error: " ++ token ++ " unexpected"
  | unexpected token (some expected) =>
    "Syntax error: " ++ token ++ " unexpected (expecting " ++ expected ++ ")"
  | unterminatedQuote => "Syntax error: Unterminated quoted string"
  | unterminatedBackquote => "Syntax error: EOF in backquote substitution"
  | missing token => "Syntax error: Missing '" ++ token ++ "'"
  | badLoopVariable => "Syntax error: Bad for loop variable"
  | badFunctionName => "Syntax error: Bad function name"

/-- A fault and the line it is in. -/
structure Refusal where
  line : Nat
  fault : Fault
  deriving DecidableEq, Repr

/-- A document that was announced: its place among the documents, the line that ends it, whether
tabs in front of its lines are dropped, and whether it is taken as it is. -/
structure Announcement where
  index : Nat
  mark : List Char
  dropsTabs : Bool
  isPlain : Bool
  deriving DecidableEq, Repr

/-- What is left to read, the number of its first line, the documents so far and those that were
announced, and the aliases.  `folds` counts the characters up to the next place where a line goes
on, and then from one such place to the next.  An alias that was put in place of its name is not
looked at again before as much is left as was behind the name; the last one may ask for the next
word to be looked at too. -/
structure Cursor where
  rest : List Char
  folds : List Nat
  line : Nat
  documents : List Word
  announced : List Announcement
  aliases : List (String × String)
  placed : List (String × Nat)
  nextToo : Option Nat

/-- A text without the ends behind which its lines go on, and the characters between those; `since`
counts the characters behind the last one. -/
def unfoldedFrom : (since : Nat) → List Char → List Char × List Nat
  | _, [] => ([], [])
  | since, '\\' :: '\n' :: rest =>
    let (text, folds) := unfoldedFrom 0 rest
    (text, since :: folds)
  | since, '\\' :: c :: rest =>
    let (text, folds) := unfoldedFrom (since + 2) rest
    ('\\' :: c :: text, folds)
  | since, c :: rest =>
    let (text, folds) := unfoldedFrom (since + 1) rest
    (c :: text, folds)

/-- A text without the ends behind which its lines go on, and the characters between those. -/
def unfolded (text : List Char) : List Char × List Nat :=
  unfoldedFrom 0 text

/-- A text with the ends behind which its lines go on. -/
def folded : List Nat → List Char → List Char
  | [], text => text
  | size :: folds, text => text.take size ++ '\\' :: '\n' :: folded folds (text.drop size)

/-- How many places where lines go on are passed with so many characters, and those ahead then;
`isOver` tells that one right behind the characters is passed too. -/
def passFolds (isOver : Bool) : (count : Nat) → List Nat → Nat × List Nat
  | _, [] => (0, [])
  | count, size :: folds =>
    if size < count || (isOver && size = count) then
      let (passed, ahead) := passFolds isOver (count - size) folds
      (passed + 1, ahead)
    else (0, (size - count) :: folds)

namespace Cursor

/-- The cursor behind so many characters.  A place where a line goes on is passed with the character
in front of it, but not with the end of the line before. -/
def behind (s : Cursor) (count : Nat) : Cursor :=
  let isOver := (s.rest.take count).getLast? ≠ some '\n'
  let (passed, folds) := passFolds isOver count s.folds
  { s with
    rest := s.rest.drop count, folds,
    line := s.line + (s.rest.take count).count '\n' + passed }

/-- The cursor at the beginning of another text. -/
def at_ (s : Cursor) (text : List Char) : Cursor :=
  let (rest, folds) := unfolded text
  { s with rest, folds }.behind 0

/-- The cursor in front of a text that stands before what is left. -/
def before (s : Cursor) (text : List Char) : Cursor :=
  let (front, folds) := unfolded text
  let ahead := front.length - folds.foldl (· + ·) 0
  let behind := match s.folds with
    | [] => []
    | size :: more => (ahead + size) :: more
  { s with rest := front ++ s.rest, folds := folds ++ behind }.behind 0

/-- The beginning of a text. -/
def start (text : List Char) (line : Nat) (documents : List Word)
    (aliases : List (String × String)) : Cursor :=
  Cursor.at_ ⟨[], [], line, documents, [], aliases, [], none⟩ text

/-- What is left as it was written. -/
def written (s : Cursor) : List Char :=
  folded s.folds s.rest

/-- So many characters as they were written, with what stands in front of the one behind them. -/
def writtenUpTo (s : Cursor) (count : Nat) : List Char :=
  let passed := (passFolds true count s.folds).1
  folded (s.folds.take passed) (s.rest.take count)

end Cursor

/-- Reading a part of a script. -/
abbrev Reading := StateT Cursor (Except Refusal)

/-- Refuses the text. -/
def refuse {α : Type} (fault : Fault) : Reading α := do
  throw ⟨(← get).line, fault⟩

/-- Goes on behind so many characters. -/
def advance (count : Nat) : Reading Unit :=
  modify fun s => s.behind count

/-! ### Characters and tokens -/

/-- The special commands, which end the shell when they are misused. -/
def specialNames : List String := [
  ".", ":", "break", "continue", "eval", "exec", "exit", "export", "local", "readonly", "return",
  "set", "shift", "times", "trap", "unset"]

/-- The characters that end a word. -/
def endsWord (c : Char) : Bool :=
  " \t\n;&|<>()".toList.contains c

/-- The names that are one character long and no letter. -/
def isSpecialName (c : Char) : Bool :=
  "@*#?-$!".toList.contains c || c.isDigit

/-- The words that hold commands together. -/
def reservedWords : List String := [
  "!", "case", "do", "done", "elif", "else", "esac", "fi", "for", "if", "in", "then", "until",
  "while", "\x7b", "\x7d"]

/-- The words that end a list of commands. -/
def closingWords : List String := ["do", "done", "elif", "else", "esac", "fi", "then", "\x7d"]

/-- The cursor behind a comment, which ends with its line whatever stands in front of that end. -/
def Cursor.behindComment (s : Cursor) : Cursor :=
  let size := (s.rest.takeWhile (· ≠ '\n')).length
  match s.folds with
  | [] => s.behind size
  | fold :: folds =>
    if fold ≤ size then
      { s with
        rest := '\n' :: s.rest.drop fold
        folds := match folds with
          | [] => []
          | next :: more => (next + 1) :: more }
    else s.behind size

/-- Goes on behind blanks and a comment. -/
def gap : Reading Unit := do
  advance ((← get).rest.takeWhile fun c => c = ' ' || c = '\t').length
  if (← get).rest.head? = some '#' then modify Cursor.behindComment

/-- The reserved word at the front of a text. -/
def reserved? (text : List Char) : Option String :=
  let word := String.ofList (text.takeWhile fun c => !endsWord c)
  if reservedWords.contains word then some word else none

/-- The operators, the longest first. -/
def operators : List String := ["&&", "||", ";;", "&", "|", ";", "(", ")"]

/-- What is called the token at the front of a text, where reserved words may be told apart. -/
def tokenName (admitsReserved : Bool) (text : List Char) : String :=
  match text with
  | [] => "end of file"
  | '\n' :: _ => "newline"
  | '<' :: _ => "redirection"
  | '>' :: _ => "redirection"
  | _ =>
    match operators.find? fun op => op.toList.isPrefixOf text with
    | some op => "\"" ++ op ++ "\""
    | none =>
      match if admitsReserved then reserved? text else none with
      | some word => "\"" ++ word ++ "\""
      | none => "word"

/-- Refuses the token that comes next.  A line feed is found on the line behind it, and a sign that
may have another one behind it where that would be. -/
def refuseToken {α : Type} (admitsReserved : Bool) (expected : Option String) : Reading α := do
  gap
  let s ← get
  let line := match s.rest.head? with
    | some c => if "\n;&|<>".toList.contains c then (s.behind 1).line else s.line
    | none => s.line
  throw ⟨line, .unexpected (tokenName admitsReserved s.rest) expected⟩

/-- Refuses the token that comes next, which may be a reserved word. -/
def refuseNext {α : Type} (expected : Option String) : Reading α :=
  refuseToken true expected

/-- A list of commands ends here. -/
def closes (text : List Char) : Bool :=
  match text with
  | [] => true
  | ')' :: _ => true
  | ';' :: ';' :: _ => true
  | _ => ((reserved? text).map closingWords.contains).getD false

/-! ### Aliases -/

/-- A word in which nothing is quoted or expanded. -/
def isPlainWord (word : List Char) : Bool :=
  !word.isEmpty && word.all fun c => !"'\"\\$\x60".toList.contains c

/-- The cursor with what an alias stands for in place of its name, if the next word is one. -/
def Cursor.aliased? (s : Cursor) : Option Cursor :=
  let word := s.rest.takeWhile fun c => !endsWord c
  let behind := s.rest.length - word.length
  let live := s.placed.filter fun p => s.rest.length > p.2
  let name := String.ofList word
  match s.aliases.lookup name with
  | some value =>
    if isPlainWord word && !live.any (·.1 = name) then
      let endsBlank := value.toList.getLast? = some ' ' ∨ value.toList.getLast? = some '\t'
      some { (s.behind word.length).before value.toList with
        placed := (name, behind) :: live
        nextToo := if endsBlank then some behind else s.nextToo }
    else none
  | none => none

/-- Puts what aliases stand for in place of the next word, at most `bound` times; `isFirst` tells
that it may be a reserved word. -/
def placeAliases (isFirst : Bool) : (bound : Nat) → Reading Unit
  | 0 => gap
  | bound + 1 => do
    gap
    let s ← get
    if !isFirst || (reserved? s.rest).isNone then
      match s.aliased? with
      | some placed =>
        set placed
        placeAliases isFirst bound
      | none => pure ()

/-- Puts what aliases stand for in place of the next word, if it stands where a command begins. -/
def openAliases : Reading Unit := do
  placeAliases true ((← get).aliases.length + 1)

/-- Puts what aliases stand for in place of a word among others, if an alias before it asked for
that. -/
def followAliases : Reading Unit := do
  let s ← get
  match s.nextToo with
  | some size =>
    if s.rest.length ≤ size then
      set { s with nextToo := none }
      placeAliases false (s.aliases.length + 1)
  | none => pure ()

/-! ### Documents -/

/-- A line goes on behind its end: a backslash stands there that no other one protects. -/
def continues (line : List Char) : Bool :=
  (line.reverse.takeWhile (· = '\\')).length % 2 = 1

/-- Where a document ends: its text, the lines behind it, how many lines it takes up with the one that
ends it, and whether there is such a line.  A last line that does not end is not counted. -/
structure Extent where
  text : List Char
  behind : List (List Char)
  lines : Nat
  isEnded : Bool
  deriving DecidableEq, Repr

/-- The extent of a document with one line more in front. -/
def Extent.after (line : List Char) (e : Extent) : Extent :=
  { e with text := line ++ '\n' :: e.text, lines := e.lines + 1 }

/-- The extent of a document in the lines of what is left.  `passed` lines that look like its end are
part of it, and `begun` is the beginning of a line that goes on.  A line that is nothing but a
backslash is none; behind tabs that are dropped it is part of the next one. -/
def extentOf (d : Announcement) : (passed : Nat) → (begun : Option (List Char)) →
    List (List Char) → Extent
  | _, begun, [] => ⟨begun.getD [], [], 0, false⟩
  | passed, begun, whole :: rest =>
    let line := match begun with
      | some front => front ++ whole
      | none => if d.dropsTabs then whole.dropWhile (· = '\t') else whole
    let more (e : Extent) : Extent := { e with lines := e.lines + 1 }
    let isBare := !d.isPlain && begun.isNone && line = ['\\'] && !rest.isEmpty
    if isBare && line = whole then more (extentOf d passed none rest)
    else if isBare then extentOf d passed (some ['\\', '\n']) rest
    else if !d.isPlain && continues line && !rest.isEmpty then
      more (extentOf d passed (some line.dropLast) rest)
    else if begun.isNone && line = d.mark then
      match passed with
      | 0 => ⟨[], rest, 1, true⟩
      | passed + 1 => (extentOf d passed none rest).after line
    else if rest.isEmpty then ⟨line, [], 0, false⟩
    else (extentOf d passed none rest).after line

/-- A text is refused because a script in it does not end. -/
def Refusal.isOpen (r : Refusal) : Bool :=
  match r.fault with
  | .unexpected token _ => token = "end of file"
  | .unterminatedQuote => true
  | .unterminatedBackquote => true
  | _ => false

/-- Where the word that ends a document is read: outside of quotes, between single quotes or
between double quotes. -/
inductive MarkPlace
  | bare
  | single
  | double
  deriving DecidableEq, Repr

/-- The place behind a character, and what the word has of it. -/
def MarkPlace.next (place : MarkPlace) (c : Char) : MarkPlace × List Char :=
  match place with
  | .bare => if c = '\'' then (.single, []) else if c = '"' then (.double, []) else (.bare, [c])
  | .single => if c = '\'' then (.bare, []) else (.single, [c])
  | .double => if c = '"' then (.bare, []) else (.double, [c])

/-- The word that ends a document without its quotes, whether there are some, and its length, unless
a quote is left open. -/
def markWord : MarkPlace → List Char → Option (List Char × Bool × Nat)
  | place, [] => if place = .bare then some ([], false, 0) else none
  | .bare, '\\' :: c :: rest =>
    (markWord .bare rest).map fun (word, _, size) => (c :: word, true, size + 2)
  | .double, '\\' :: c :: rest =>
    (markWord .double rest).map fun (word, _, size) =>
      (if "\"\\$\x60".toList.contains c then c :: word else '\\' :: c :: word, true, size + 2)
  | place, c :: rest =>
    if place = .bare && endsWord c then some ([], false, 0)
    else
      let (behind, shown) := place.next c
      (markWord behind rest).map fun (word, quoted, size) =>
        (shown ++ word, quoted || shown.isEmpty, size + 1)

/-- Announces a document behind the two signs of its redirection. -/
def announce : Reading Nat := do
  let dropsTabs := (← get).rest.head? = some '-'
  if dropsTabs then advance 1
  gap
  let rest := (← get).rest
  match markWord .bare rest with
  | none =>
    advance rest.length
    refuse .unterminatedQuote
  | some (mark, isPlain, size) =>
    if size = 0 then refuseNext none
    advance size
    let s ← get
    let index := s.documents.length
    let announcement : Announcement := ⟨index, mark, dropsTabs, isPlain⟩
    set { s with documents := s.documents ++ [[]], announced := s.announced ++ [announcement] }
    return index

/-! ### Parts of words -/

/-- Where a part of a word stands: bare, in double quotes, in a document, in braces that are bare,
in double quotes inside them, in braces that are in quotes or in a document, or in a sum with open
parentheses. -/
inductive Context
  | bare
  | double
  | document
  | braces
  | bracesDouble
  | quotedBraces (inside inDocument : Bool)
  | sum (depth : Nat)
  deriving DecidableEq, Repr

namespace Context

/-- What stands here is quoted. -/
def isQuoted : Context → Bool
  | bare => false
  | braces => false
  | _ => true

/-- A text ends what stands here. -/
def endsAt : Context → List Char → Bool
  | bare, c :: _ => endsWord c
  | double, c :: _ => c = '"'
  | braces, c :: _ => c = '}'
  | bracesDouble, c :: _ => c = '"'
  | quotedBraces false _, c :: _ => c = '}'
  | sum 0, ')' :: ')' :: _ => true
  | _, _ => false

/-- The characters that do not stand for themselves here. -/
def special : Context → String
  | bare => "'\"\\$\x60"
  | double => "\"\\$\x60"
  | document => "\\$\x60"
  | braces => "\x7d'\"\\$\x60"
  | bracesDouble => "\"\\$\x60"
  | quotedBraces _ _ => "\x7d\"\\$\x60"
  | sum _ => "()\\$\x60"

/-- A character that stands for itself here. -/
def isPlain (place : Context) (c : Char) : Bool :=
  !place.special.toList.contains c && (place ≠ bare || !endsWord c)

/-- A character that a backslash makes plain here. -/
def isEscapable : Context → Char → Bool
  | bare, _ => true
  | braces, _ => true
  | document, c => "\\$\x60".toList.contains c
  | bracesDouble, c => "\x7d\"\\$\x60".toList.contains c
  | quotedBraces _ _, c => "\x7d\"\\$\x60".toList.contains c
  | _, c => "\"\\$\x60".toList.contains c

/-- What is missing when the text ends here, if anything. -/
def missing? : Context → Option Fault
  | bare => none
  | document => none
  | braces => some (.missing "\x7d")
  | quotedBraces _ true => some (.missing "\x7d")
  | sum _ => some (.missing "))")
  | _ => some .unterminatedQuote

/-- Where a word in braces stands that begin here. -/
def inBraces : Context → Context
  | bare => braces
  | braces => braces
  | document => quotedBraces false true
  | quotedBraces _ inDocument => quotedBraces false inDocument
  | _ => quotedBraces false false

end Context

/-- Marks around what stands in quotes.  All arguments in quotes of their own need none, since each
of them is a field. -/
def inQuotes (inner : List Piece) : List Piece :=
  match inner with
  | [.parameter "@" .plain _ _] => inner
  | _ => .mark :: inner ++ [.mark]

/-- The text between backquotes without the backslashes that protect it, and its length with them;
it ends with a backquote.  Inside double quotes a backslash protects those too. -/
def backquoted? (quoted : Bool) : List Char → Option (List Char × Nat)
  | [] => none
  | '\\' :: c :: rest =>
    let protects := c = '$' ∨ c = '\\' ∨ c = '\x60' ∨ (c = '"' ∧ quoted)
    (backquoted? quoted rest).map fun (text, size) =>
      (if protects then c :: text else '\\' :: c :: text, size + 2)
  | c :: rest =>
    if c = '\x60' then some ([], 1)
    else (backquoted? quoted rest).map fun (text, size) => (c :: text, size + 1)

/-- The name at the front of what stands in braces. -/
def bracedName (text : List Char) : List Char :=
  match text with
  | [] => []
  | c :: _ =>
    if isNameStart c then text.takeWhile isNameChar
    else if c.isDigit then text.takeWhile Char.isDigit
    else if isSpecialName c then [c]
    else []

/-- The name at the front of what stands in braces, when its length is asked for. -/
def countedName? (text : List Char) : Option (List Char) :=
  match text with
  | '#' :: rest =>
    let name := bracedName rest
    match name, rest.drop name.length with
    | c :: _, '}' :: _ => if c ≠ '}' then some name else none
    | c :: _, _ => if c.isAlphanum ∨ c = '_' then some name else none
    | [], _ => none
  | _ => none

/-- The form that the characters behind a name ask for, and how many of them there are. -/
def formOf (text : List Char) : Form × Nat :=
  match text with
  | ':' :: '}' :: _ => (.final, 2)
  | ':' :: c :: _ => if "-=?+".toList.contains c then (.instead c true, 2) else (.wrong, 2)
  | '%' :: '%' :: _ => (.trimmed false true, 2)
  | '%' :: _ => (.trimmed false false, 1)
  | '#' :: '#' :: _ => (.trimmed true true, 2)
  | '#' :: _ => (.trimmed true false, 1)
  | c :: _ => if "-=?+".toList.contains c then (.instead c false, 1) else (.wrong, 1)
  | [] => (.wrong, 0)

/-- The name and the value in a word that sets a variable. -/
def setting? : Word → Option (String × Word)
  | .text content false :: rest =>
    let chars := content.toList
    let name := chars.takeWhile isNameChar
    match name.head?, chars.drop name.length with
    | some c, '=' :: value =>
      if isNameStart c then
        some (String.ofList name,
          if value.isEmpty then rest else .text (String.ofList value) false :: rest)
      else none
    | _, _ => none
  | _ => none

/-- The name of a function that a word makes. -/
def functionName? : Word → Option String
  | [.text name false] =>
    if isName name && !specialNames.contains name then some name else none
  | _ => none

/-- How a redirection goes on behind its number. -/
inductive Direction
  | file (attachment : Attachment)
  | copy
  | document
  deriving DecidableEq, Repr

/-- The number, the direction and the length of the redirection at the front of a text. -/
def direction? (text : List Char) : Option (Nat × Direction × Nat) :=
  let digits := (text.take 1).takeWhile Char.isDigit
  let number (fallback : Nat) := if digits.isEmpty then fallback else Text.valueOf 10 digits
  let size := digits.length
  match text.drop size with
  | '>' :: '>' :: _ => some (number 1, .file .append, size + 2)
  | '>' :: '|' :: _ => some (number 1, .file .clobber, size + 2)
  | '>' :: '&' :: _ => some (number 1, .copy, size + 2)
  | '>' :: _ => some (number 1, .file .write, size + 1)
  | '<' :: '<' :: _ => some (number 0, .document, size + 2)
  | '<' :: '&' :: _ => some (number 0, .copy, size + 2)
  | '<' :: '>' :: _ => some (number 0, .file .readWrite, size + 2)
  | '<' :: _ => some (number 0, .file .read, size + 1)
  | _ => none

/-- The characters of the name in braces behind a dollar sign, its form, and the characters of that.
A name that is none is passed over, unless the braces close there; so is one that cannot be counted
behind the sign for counting. -/
def parameterFront (text : List Char) : List Char × Form × Nat :=
  let name := bracedName text
  match text with
  | '#' :: c :: '}' :: _ => if c = '}' then (name, .plain, 0) else ([], .wrong, 2)
  | _ =>
    if !name.isEmpty then (name, formOf (text.drop name.length))
    else ([], .wrong, if text.head? = some '}' then 0 else 1)

/-- The length of the token at the front of a text that is no word. -/
def operatorSize (text : List Char) : Nat :=
  match direction? text, operators.find? fun op => op.toList.isPrefixOf text with
  | some (_, _, size), _ => size
  | none, some op => op.length
  | none, none => 1

/-! ### Words and commands -/

mutual

/-- Reads the parts of a word up to where it ends. -/
def pieces : (depth : Nat) → Context → Reading (List Piece)
  | 0, _ => refuseNext none
  | depth + 1, place => do
    let text := (← get).rest
    if place.endsAt text then return []
    match text with
    | [] =>
      match place.missing? with
      | some fault => refuse fault
      | none => return []
    | ['\\'] =>
      advance 1
      match place.missing? with
      | some fault => refuse fault
      | none => return [.text "\\" true]
    | '\\' :: c :: _ =>
      if place.isEscapable c then
        advance 2
        return .text (toString c) true :: (← pieces depth place)
      else
        advance 1
        return .text "\\" true :: (← pieces depth place)
    | '$' :: _ =>
      advance 1
      let piece ← dollar depth place
      return piece :: (← pieces depth place)
    | c :: rest =>
      if place.isPlain c then
        let run := text.takeWhile place.isPlain
        advance run.length
        return .text (String.ofList run) place.isQuoted :: (← pieces depth place)
      else if c = '\x60' then
        let piece ← backquotes depth place.isQuoted
        return piece :: (← pieces depth place)
      else if c = '\'' then
        advance 0
        let size := (rest.takeWhile (· ≠ '\'')).length
        if size = rest.length then
          advance (size + 1)
          refuse .unterminatedQuote
        let inner := ((← get).writtenUpTo (size + 1)).drop 1
        advance (size + 2)
        let quoted := inQuotes [.text (String.ofList inner) true]
        return quoted ++ (← pieces depth place)
      else if c = '"' then
        match place with
        | .quotedBraces inside inDocument =>
          advance 1
          let marks := if inDocument then [] else [Piece.mark]
          return marks ++ (← pieces depth (.quotedBraces (!inside) inDocument))
        | _ =>
          advance 1
          let inner ← pieces depth (if place = .bare then .double else .bracesDouble)
          advance 1
          return inQuotes inner ++ (← pieces depth place)
      else
        advance 1
        let inside := match place, c with
          | .sum open_, '(' => Context.sum (open_ + 1)
          | .sum open_, _ => Context.sum (open_ - 1)
          | _, _ => place
        return .text (toString c) place.isQuoted :: (← pieces depth inside)

/-- Refuses the token that comes next.  If it is a word, what is wrong in it counts first. -/
def refuseWord : (depth : Nat) → (admitsReserved : Bool) → (expected : Option String) →
    Reading Unit
  | 0, _, _ => refuseNext none
  | depth + 1, admitsReserved, expected => do
    gap
    let here ← get
    let _ ← pieces depth .bare
    let behind ← get
    set { here with line := behind.line }
    refuseToken admitsReserved expected

/-- Goes on behind an operator or a reserved word, which has to be there. -/
def expectToken : (depth : Nat) → (admitsReserved : Bool) → (token : String) → Reading Unit
  | 0, _, _ => refuseNext none
  | depth + 1, admitsReserved, token => do
    gap
    let rest := (← get).rest
    if reserved? rest = some token ∨ (operators.contains token ∧ token.toList.isPrefixOf rest) then
      advance token.length
    else refuseWord depth admitsReserved (some ("\"" ++ token ++ "\""))

/-- Reads a script between backquotes; its lines are counted from one.  What cannot belong to a list
of commands ends it there, and what stands behind that is passed over. -/
def backquotes : (depth : Nat) → (quoted : Bool) → Reading Piece
  | 0, _ => refuseNext none
  | depth + 1, quoted => do
    let outside ← get
    match backquoted? quoted (outside.rest.drop 1) with
    | none =>
      throw ⟨(outside.behind outside.rest.length).line, .unterminatedBackquote⟩
    | some (inner, size) =>
      set ({ outside with line := 1, announced := [] }.at_ inner)
      let body ← list depth true
      openLines depth
      takeDocuments depth
      let documents := (← get).documents
      set { outside with documents }
      advance (size + 1)
      return .output body quoted

/-- Reads what a dollar sign in front stands for. -/
def dollar : (depth : Nat) → Context → Reading Piece
  | 0, _ => refuseNext none
  | depth + 1, place => do
    let quoted := place.isQuoted
    match (← get).rest with
    | '(' :: '(' :: _ =>
      advance 2
      let expression ← pieces depth (.sum 0)
      advance 2
      return .sum expression quoted
    | '(' :: _ =>
      advance 1
      let announced := (← get).announced
      modify fun s => { s with announced := [] }
      let body ← list depth true
      openLines depth
      expectToken depth true ")"
      modify fun s => { s with announced }
      return .output body quoted
    | '{' :: _ =>
      advance 1
      braced depth place
    | c :: rest =>
      if isNameStart c then
        let name := (c :: rest).takeWhile isNameChar
        advance name.length
        return .parameter (String.ofList name) .plain [] quoted
      else if isSpecialName c then
        advance 1
        return .parameter (toString c) .plain [] quoted
      else return .text "$" quoted
    | [] => return .text "$" quoted

/-- Reads what stands in braces behind a dollar sign. -/
def braced : (depth : Nat) → Context → Reading Piece
  | 0, _ => refuseNext none
  | depth + 1, place => do
    let quoted := place.isQuoted
    let text := (← get).rest
    match countedName? text with
    | some counted =>
      advance (counted.length + 1)
      let behind ← pieces depth place.inBraces
      advance 1
      return .parameter (String.ofList counted) (if behind.isEmpty then .length else .wrong) []
        quoted
    | none =>
      let (name, form, size) := parameterFront text
      advance name.length
      if !name.isEmpty ∧ (← get).rest.head? = some '}' then
        advance 1
        return .parameter (String.ofList name) .plain [] quoted
      let line := (← get).line
      advance size
      if form = .wrong then modify fun s => { s with line }
      let inside := match form with
        | .trimmed _ _ => Context.braces
        | _ => place.inBraces
      let word ← pieces depth inside
      advance 1
      return .parameter (String.ofList name) form word quoted

/-- Reads a document.  A line that looks like its end is none inside a script in it, so one more of
them is passed over when a script does not end in front of it. -/
def document : (depth : Nat) → Announcement → (passed : Nat) → Reading Word
  | 0, _, _ => refuseNext none
  | depth + 1, d, passed => do
    let s ← get
    let extent := extentOf d passed none (Text.cut (· = '\n') s.written)
    let line := s.line + extent.lines
    let behind (documents : List Word) : Cursor :=
      { s with line, documents }.at_ (List.intercalate ['\n'] extent.behind)
    if d.isPlain then
      set (behind s.documents)
      return [.text (String.ofList extent.text) true]
    else
      try
        set { s with rest := extent.text, folds := [], announced := [] }
        let read ← pieces depth .document
        set (behind (← get).documents)
        return read
      catch refusal =>
        if refusal.isOpen && extent.isEnded then
          set s
          document depth d (passed + 1)
        else
          match refusal.fault with
          | .missing token => throw ⟨line, .missing token⟩
          | _ => throw refusal

/-- Reads the documents that were announced. -/
def takeDocuments : (depth : Nat) → Reading Unit
  | 0 => refuseNext none
  | depth + 1 => do
    match (← get).announced with
    | [] => pure ()
    | d :: announced =>
      modify fun s => { s with announced }
      let word ← document depth d 0
      modify fun s => { s with announced, documents := s.documents.set d.index word }
      takeDocuments depth

/-- Goes on behind all blanks and line feeds. -/
def openLines : (depth : Nat) → Reading Unit
  | 0 => refuseNext none
  | depth + 1 => do
    gap
    if (← get).rest.head? = some '\n' then
      advance 1
      takeDocuments depth
      openLines depth

/-- Reads the word of a redirection or of a choice, which has to be there. -/
def word : (depth : Nat) → (expected : Option String) → Reading Word
  | 0, _ => refuseNext none
  | depth + 1, expected => do
    gap
    match ← pieces depth .bare with
    | [] => refuseNext expected
    | read => return read

/-- Reads a redirection, if there is one. -/
def redirection? : (depth : Nat) → Reading (Option Redirection)
  | 0 => refuseNext none
  | depth + 1 => do
    gap
    match direction? (← get).rest with
    | none => return none
    | some (number, direction, size) =>
      advance size
      match direction with
      | .file attachment => return some (.file number attachment (← word depth none))
      | .copy => return some (.copy number (← word depth none))
      | .document => return some (.document number (← announce))

/-- Reads redirections. -/
def redirections : (depth : Nat) → Reading (List Redirection)
  | 0 => refuseNext none
  | depth + 1 => do
    match ← redirection? depth with
    | none => return []
    | some read => return read :: (← redirections depth)

/-- Reads the rest of a simple command; the parts read so far come in reverse order.  The command is
on the line on which its first word ends, or the sign of its first redirection. -/
def simple : (depth : Nat) → (line : Nat) → List (String × Word) → List Word → List Redirection →
    Reading Script
  | 0, _, _, _, _ => refuseNext none
  | depth + 1, line, settings, words, attached => do
    gap
    let here ← get
    match ← redirection? depth with
    | some read =>
      let isFirst := words.isEmpty ∧ settings.isEmpty ∧ attached.isEmpty
      let size := ((direction? here.rest).map fun found => found.2.2).getD 0
      let line := if isFirst then (here.behind size).line else line
      simple depth line settings words (read :: attached)
    | none =>
      if words.isEmpty ∧ !settings.isEmpty then openAliases else followAliases
      match ← pieces depth .bare with
      | [] =>
        if settings.isEmpty ∧ words.isEmpty ∧ attached.isEmpty then refuseNext none
        return .simple line settings.reverse words.reverse attached.reverse
      | read =>
        let isFirst := words.isEmpty ∧ settings.isEmpty ∧ attached.isEmpty
        let last := (← get).line
        let line := if isFirst then last else line
        match setting? read with
        | some found =>
          if words.isEmpty then simple depth line (found :: settings) words attached
          else simple depth line settings (read :: words) attached
        | none =>
          gap
          if isFirst ∧ (← get).rest.head? = some '(' then
            advance 1
            expectToken depth false ")"
            match functionName? read with
            | none => refuse .badFunctionName
            | some name =>
              openLines depth
              return .define name (← command depth)
          else simple depth line settings (read :: words) attached

/-- Reads a list of commands that must not be empty unless the text ends; then what is missed is the
word that should close the list. -/
def body : (depth : Nat) → Reading Script
  | 0 => refuseNext none
  | depth + 1 => do
    openLines depth
    let rest := (← get).rest
    if closes rest ∧ !rest.isEmpty then refuseNext none
    let read ← list depth true
    openLines depth
    return read

/-- Reads a choice behind the word that opens it. -/
def branch : (depth : Nat) → Reading Script
  | 0 => refuseNext none
  | depth + 1 => do
    let condition ← body depth
    expectToken depth true "then"
    let first ← body depth
    match reserved? (← get).rest with
    | some "elif" =>
      advance 4
      return .branch condition first (← branch depth)
    | some "else" =>
      advance 4
      let second ← body depth
      expectToken depth true "fi"
      return .branch condition first second
    | _ =>
      expectToken depth true "fi"
      return .branch condition first .nothing

/-- Reads the words that a loop goes through. -/
def loopWords : (depth : Nat) → Reading (List Word)
  | 0 => refuseNext none
  | depth + 1 => do
    gap
    match ← pieces depth .bare with
    | [] => return []
    | read => return read :: (← loopWords depth)

/-- Reads a loop over values behind the word that opens it. -/
def each : (depth : Nat) → (line : Nat) → Reading Script
  | 0, _ => refuseNext none
  | depth + 1, line => do
    gap
    let read ← pieces depth .bare
    let name := match read with
      | [.text name false] => name
      | _ => ""
    if !isName name then
      let s ← get
      let isLine := read.isEmpty && s.rest.head? = some '\n'
      throw ⟨if isLine then s.line + 1 else s.line, .badLoopVariable⟩
    openLines depth
    let words ←
      if reserved? (← get).rest = some "in" then
        advance 2
        let words ← loopWords depth
        match (← get).rest.head? with
        | some ';' => advance 1
        | some '\n' => pure ()
        | _ => refuseNext none
        pure (some words)
      else
        if (← get).rest.head? = some ';' then advance 1
        pure none
    openLines depth
    expectToken depth true "do"
    let inner ← body depth
    expectToken depth true "done"
    return .each line name words inner

/-- Reads the patterns in front of a case.  A token that is no word stands for a pattern too. -/
def patterns : (depth : Nat) → Reading (List Word)
  | 0 => refuseNext none
  | depth + 1 => do
    gap
    let first ← pieces depth .bare
    if first.isEmpty then advance (operatorSize (← get).rest)
    gap
    let rest := (← get).rest
    if rest.head? = some '|' ∧ rest.take 2 ≠ ['|', '|'] then
      advance 1
      return first :: (← patterns depth)
    else
      expectToken depth false ")"
      return [first]

/-- Reads the cases of a choice up to the word that closes it. -/
def cases : (depth : Nat) → Reading (List (List Word × Script))
  | 0 => refuseNext none
  | depth + 1 => do
    openLines depth
    if reserved? (← get).rest = some "esac" then
      advance 4
      return []
    if (← get).rest.head? = some '(' then advance 1
    let matching ← patterns depth
    let inner ← list depth true
    openLines depth
    if (";;".toList).isPrefixOf (← get).rest then
      advance 2
      return (matching, inner) :: (← cases depth)
    else if reserved? (← get).rest = some "esac" then
      advance 4
      return [(matching, inner)]
    else refuseNext (some "\";;\"")

/-- Reads a loop as long as a condition holds behind the word that opens it. -/
def loop : (depth : Nat) → (untilTrue : Bool) → Reading Script
  | 0, _ => refuseNext none
  | depth + 1, untilTrue => do
    let condition ← body depth
    expectToken depth true "do"
    let inner ← body depth
    expectToken depth true "done"
    return .loop untilTrue condition inner

/-- Reads a command without redirections behind it. -/
def bareCommand : (depth : Nat) → Reading Script
  | 0 => refuseNext none
  | depth + 1 => do
    openAliases
    let here ← get
    match reserved? here.rest with
    | some "if" =>
      advance 2
      branch depth
    | some "while" =>
      advance 5
      loop depth false
    | some "until" =>
      advance 5
      loop depth true
    | some "for" =>
      advance 3
      each depth (← get).line
    | some "case" =>
      advance 4
      let line := (← get).line
      let subject ← word depth (some "word")
      openLines depth
      expectToken depth true "in"
      return .choice line subject (← cases depth)
    | some "\x7b" =>
      advance 1
      let inner ← body depth
      expectToken depth true "\x7d"
      return inner
    | some _ => refuseNext none
    | none =>
      if here.rest.head? = some '(' then
        advance 1
        let inner ← body depth
        expectToken depth true ")"
        return .subshell inner
      else simple depth here.line [] [] []

/-- Reads a command. -/
def command : (depth : Nat) → Reading Script
  | 0 => refuseNext none
  | depth + 1 => do
    gap
    let line := (← get).line
    let read ← bareCommand depth
    match ← redirections depth with
    | [] => return read
    | attached => return .redirected line read attached

/-- Reads commands with bars between them. -/
def bars : (depth : Nat) → Reading (List Script)
  | 0 => refuseNext none
  | depth + 1 => do
    let first ← command depth
    gap
    match (← get).rest with
    | '|' :: '|' :: _ => return [first]
    | '|' :: _ =>
      advance 1
      openLines depth
      return first :: (← bars depth)
    | _ => return [first]

/-- Reads a pipeline. -/
def pipeline : (depth : Nat) → Reading Script
  | 0 => refuseNext none
  | depth + 1 => do
    openAliases
    if reserved? (← get).rest = some "!" then
      advance 1
      return .pipeline true (← bars depth)
    else
      match ← bars depth with
      | [only] => return only
      | parts => return .pipeline false parts

/-- Reads pipelines joined behind one that was read already. -/
def joined : (depth : Nat) → Script → Reading Script
  | 0, _ => refuseNext none
  | depth + 1, first => do
    gap
    match (← get).rest with
    | '&' :: '&' :: _ =>
      advance 2
      openLines depth
      joined depth (.both first (← pipeline depth))
    | '|' :: '|' :: _ =>
      advance 2
      openLines depth
      joined depth (.either first (← pipeline depth))
    | _ => return first

/-- Reads a list of commands; `lines` tells whether it goes on behind a line feed. -/
def list : (depth : Nat) → (lines : Bool) → Reading Script
  | 0, _ => refuseNext none
  | depth + 1, lines => do
    if lines then openLines depth else gap
    let text := (← get).rest
    if closes text ∨ text.head? = some '\n' then return .nothing
    let first ← joined depth (← pipeline depth)
    gap
    match (← get).rest with
    | ';' :: ';' :: _ => return first
    | ';' :: _ =>
      advance 1
      return first.andThen (← list depth lines)
    | '&' :: _ =>
      advance 1
      return (Script.background first).andThen (← list depth lines)
    | '\n' :: _ => if lines then return first.andThen (← list depth lines) else return first
    | _ => return first

end

/-- The depth that suffices: how many calls one character can cause, twelve, for each character of
the text and its end, whatever aliases make of them. -/
def depthFor (s : Cursor) : Nat :=
  let growth := s.aliases.foldl (fun n a => n + a.2.length + 1) 1
  12 * (s.rest.length + 2) * growth

/-- Reads the commands on the next line that has some, if there is one. -/
def nextLine : Reading (Option Script) := do
  let depth := depthFor (← get)
  openLines depth
  if (← get).rest.isEmpty then return none
  let read ← list depth false
  gap
  match (← get).rest with
  | [] => takeDocuments depth
  | '\n' :: _ =>
    advance 1
    takeDocuments depth
  | _ => refuseWord depth true none
  return some read

/-- The word that a text is when it stands in a document. -/
def documentWord? (text : String) : Option Word :=
  let start := Cursor.start text.toList 1 [] []
  match (pieces (depthFor start) .document).run start with
  | .ok (word, _) => some word
  | .error _ => none

end CheckMatrix.Shell
