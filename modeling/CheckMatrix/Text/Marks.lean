/-
Marking the characters that quoting keeps literal.

Word splitting forgets how a character was quoted, but variables and the home directory are
expanded after it.  So a line is marked first: a dollar sign or a tilde that quotes or a
backslash make literal is replaced by a private-use stand-in, which no later step takes for
the real thing, and `unmark` puts the characters back at the very end.

The automaton follows quotes and backslashes as the splitter does.  It does not know comments.
-/

namespace CheckMatrix.Marks

/-- Stands for a dollar sign that is literal. -/
def literalDollar : Char := '\uE000'

/-- Stands for a tilde that is literal. -/
def literalTilde : Char := '\uE001'

/-- How the character at hand is quoted. -/
inductive Quoting
  | bare
  | single
  | double
  | bareEscape
  | doubleEscape
  deriving DecidableEq, Repr

/-- One step of the marker: the quoting behind a character and what is written for it.  A
backslash waits for the character that it protects. -/
def Quoting.next : Quoting → Char → Quoting × List Char
  | .single, c =>
    if c = '\'' then (.bare, [c])
    else if c = '$' then (.single, [literalDollar])
    else if c = '~' then (.single, [literalTilde])
    else (.single, [c])
  | .double, c =>
    if c = '"' then (.bare, [c])
    else if c = '~' then (.double, [literalTilde])
    else if c = '\\' then (.doubleEscape, [])
    else (.double, [c])
  | .bare, c =>
    if c = '\'' then (.single, [c])
    else if c = '"' then (.double, [c])
    else if c = '\\' then (.bareEscape, [])
    else (.bare, [c])
  | .bareEscape, c =>
    if c = '$' then (.bare, [literalDollar])
    else if c = '~' then (.bare, [literalTilde])
    else (.bare, ['\\', c])
  | .doubleEscape, c =>
    if c = '$' then (.double, [literalDollar])
    else (.double, ['\\', c])

/-- Marks a text from a given quoting on. -/
def markFrom : Quoting → List Char → List Char
  | .bareEscape, [] => ['\\']
  | .doubleEscape, [] => ['\\']
  | _, [] => []
  | quoting, c :: rest =>
    let (after, written) := quoting.next c
    written ++ markFrom after rest

/-- The line with its literal dollar signs and tildes replaced by their stand-ins. -/
def mark (line : String) : String :=
  String.ofList (markFrom .bare line.toList)

/-- The character that a stand-in stands for. -/
def restore (c : Char) : Char :=
  if c = literalDollar then '$' else if c = literalTilde then '~' else c

/-- The text with every stand-in replaced by its character. -/
def unmark (text : String) : String :=
  String.ofList (text.toList.map restore)

end CheckMatrix.Marks
