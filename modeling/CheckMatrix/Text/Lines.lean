/-
Lines of a text.

A line ends with a line feed, or with a carriage return and a line feed; the last line may end
with the text.  A carriage return anywhere else is part of its line.
-/
import CheckMatrix.Text.Cut

namespace CheckMatrix.Text

/-- A line without the carriage return in front of its line feed. -/
def dropReturn (line : List Char) : List Char :=
  if line.getLast? = some '\r' then line.dropLast else line

/-- Lines from fields between line feeds: the last field is a line only if it is not empty. -/
def linesOfFields : List (List Char) → List (List Char)
  | [] => []
  | [last] => if last = [] then [] else [last]
  | field :: rest => dropReturn field :: linesOfFields rest

/-- The lines of a text. -/
def lines (text : List Char) : List (List Char) :=
  linesOfFields (cut (· = '\n') text)

/-- The last `count` elements of a list, or all of them if there are fewer. -/
def tail {α : Type} (count : Nat) (xs : List α) : List α :=
  xs.drop (xs.length - count)

end CheckMatrix.Text
