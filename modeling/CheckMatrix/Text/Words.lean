/-
Command lines and the words they stand for.

A line is read by an automaton that knows where it stands: between words, in a comment,
in bare text, inside single or double quotes, or just behind a backslash.  `Place.next` says
what one character does, so everything about splitting is a statement about one step.

Writing goes the other way.  A word is cut into runs, each written in the first of three ways
(bare, in single quotes, in double quotes) that suits all its characters, and `join` puts a
blank between the written words.  A word with a NUL character has no written form.
-/

namespace CheckMatrix.Words

/-! ### Splitting -/

/-- Where the reader of a command line stands. -/
inductive Place
  | gap
  | comment
  | bare
  | bareEscape
  | single
  | double
  | doubleEscape
  deriving DecidableEq, Repr

/-- What one character does to the words read so far. -/
inductive Effect
  | skip
  | add (text : List Char)
  | finish
  deriving DecidableEq, Repr

/-- The characters that separate words. -/
def isBlank (c : Char) : Bool :=
  c = ' ' || c = '\t' || c = '\n'

/-- The characters that a backslash makes literal inside double quotes. -/
def isDoubleEscapable (c : Char) : Bool :=
  c = '$' || c = '\x60' || c = '"' || c = '\\'

/-- What a character of a word that is neither quoted nor a blank does. -/
def Place.inWord (c : Char) : Place × Effect :=
  if c = '"' then (.double, .skip)
  else if c = '\'' then (.single, .skip)
  else if c = '\\' then (.bareEscape, .skip)
  else (.bare, .add [c])

/-- One step of the reader.  A hash sign opens a comment only where a word could begin. -/
def Place.next : Place → Char → Place × Effect
  | .gap, c =>
    if c = '#' then (.comment, .skip)
    else if isBlank c then (.gap, .skip)
    else inWord c
  | .comment, c => (if c = '\n' then .gap else .comment, .skip)
  | .bare, c => if isBlank c then (.gap, .finish) else inWord c
  | .bareEscape, c => (.bare, if c = '\n' then .skip else .add [c])
  | .single, c => if c = '\'' then (.bare, .skip) else (.single, .add [c])
  | .double, c =>
    if c = '"' then (.bare, .skip)
    else if c = '\\' then (.doubleEscape, .skip)
    else (.double, .add [c])
  | .doubleEscape, c =>
    (.double,
      if isDoubleEscapable c then .add [c]
      else if c = '\n' then .skip
      else .add ['\\', c])

/-- Reads the words of a text from a place, with the part of the current word read so far.
An open quote or a backslash at the end leaves no reading. -/
def wordsFrom : Place → List Char → List Char → Option (List (List Char))
  | .gap, _, [] => some []
  | .comment, _, [] => some []
  | .bare, word, [] => some [word]
  | _, _, [] => none
  | place, word, c :: rest =>
    match place.next c with
    | (after, .skip) => wordsFrom after word rest
    | (after, .add text) => wordsFrom after (word ++ text) rest
    | (after, .finish) => (wordsFrom after [] rest).map (word :: ·)

/-- The words of a command line, if its quotes are closed. -/
def split (line : String) : Option (List String) :=
  (wordsFrom .gap [] line.toList).map (·.map String.ofList)

/-! ### Writing -/

/-- The ways in which a run of characters can be written. -/
structure Ways where
  bare : Bool
  single : Bool
  double : Bool
  deriving DecidableEq, Repr

/-- The ways that both allow. -/
def Ways.both (v w : Ways) : Ways :=
  ⟨v.bare && w.bare, v.single && w.single, v.double && w.double⟩

/-- No way is left. -/
def Ways.isNone (w : Ways) : Bool :=
  !w.bare && !w.single && !w.double

/-- The characters that need no quotes. -/
def isPlain (c : Char) : Bool :=
  c.isAlphanum || c = '+' || c = '-' || c = '.' || c = '/' || c = ':' || c = '@' || c = ']' ||
    c = '_'

/-- The ways that suit one character inside a run. -/
def Ways.ofChar (c : Char) : Ways where
  bare := isPlain c
  single := !(c = '\'' || c = '^' || c = '\\')
  double := !(c = '\x60' || c = '$' || c = '!' || c = '^')

/-- The ways that suit the first character of a run.  A caret may stand only there, right behind
an opening single quote. -/
def Ways.opening (c : Char) : Ways :=
  if c = '^' then ⟨false, true, false⟩ else Ways.ofChar c

/-- Cuts a text into runs: a run is closed before the first character that no way shared by the
run suits. -/
def runs : List Char → Ways → List Char → List (List Char × Ways)
  | run, ways, [] => [(run, ways)]
  | run, ways, c :: rest =>
    let shared := ways.both (.ofChar c)
    if shared.isNone then (run, ways) :: runs [c] (.opening c) rest
    else runs (run ++ [c]) shared rest

/-- One character inside double quotes. -/
def escapeDouble (c : Char) : List Char :=
  if isDoubleEscapable c then ['\\', c] else [c]

/-- Writes a run in the plainest way open to it. -/
def writeRun (run : List Char) (ways : Ways) : List Char :=
  if ways.bare then run
  else if ways.single then '\'' :: (run ++ ['\''])
  else '"' :: (run.flatMap escapeDouble ++ ['"'])

/-- The written form of one word. -/
def quote : List Char → List Char
  | [] => ['\'', '\'']
  | c :: rest => (runs [c] (.opening c) rest).flatMap fun r => writeRun r.1 r.2

/-- The command line that stands for the given words, if none holds a NUL character. -/
def join? (words : List String) : Option String :=
  if words.any (·.toList.contains '\x00') then none
  else some (" ".intercalate (words.map fun word => String.ofList (quote word.toList)))

end CheckMatrix.Words
