/-
From expanded words to fields.

An expanded word is a list of cells: characters that remember whether they were quoted and whether
they come from a value, marks for quotes, edges where a value begins, and places where one of
several values ends.  Only characters from values that are not quoted are cut into fields.  Blanks
among the separators may stand in any number around another separator of the same value.
-/
import CheckMatrix.Shell.Pattern

namespace CheckMatrix.Shell

/-- A part of an expanded word.  Several values that stay apart begin with an edge that says so and
have cuts between them; those that are cut like one value have gaps. -/
inductive Cell
  | char (c : Char) (quoted : Bool) (given : Bool)
  | mark
  | edge (apart : Bool)
  | cut
  | gap
  deriving DecidableEq, Repr

namespace Cell

/-- The cells of a text that is written in a word. -/
def ofText (text : String) (quoted given : Bool) : List Cell :=
  text.toList.map fun c => char c quoted given

/-- The cells of a value. -/
def ofValue (value : String) (quoted : Bool) : List Cell :=
  if quoted then ofText value true false else edge false :: ofText value false true

/-- The cells of several values: they stay apart when they are quoted. -/
def ofValues (values : List String) (quoted : Bool) : List Cell :=
  if values.isEmpty then []
  else
    edge quoted :: List.intercalate [if quoted then cut else gap]
      (values.map fun value => ofText value quoted (!quoted))

/-- The marks of a word that is not cut into fields. -/
def marks (cells : List Cell) : List Mark :=
  cells.filterMap fun
    | char c quoted _ => some (c, quoted)
    | cut => some (' ', true)
    | gap => some (' ', false)
    | _ => none

/-- The text of a word that is not cut into fields. -/
def text (cells : List Cell) : String :=
  String.ofList ((marks cells).map Prod.fst)

end Cell

/-! ### Cutting -/

/-- Characters that separate fields and may stand around them in any number. -/
def isBlank (c : Char) : Bool :=
  c = ' ' || c = '\t' || c = '\n'

/-- How far a word was cut: the fields so far and the one begun, if any, both in reverse order;
whether the last separator was a blank; whether the values in hand stay apart, and those before
them; how many more fields there may be, if that is limited; and how much of the last field
remains if nothing but separators follows. -/
structure Cutting where
  fields : List (List Mark)
  field : Option (List Mark)
  afterBlank : Bool
  apart : Bool
  behindApart : Bool
  left : Option Nat
  kept : Option Nat

namespace Cutting

/-- Nothing was cut yet. -/
def start (left : Option Nat) : Cutting :=
  ⟨[], none, false, false, false, left, none⟩

/-- A character belongs to the field. -/
def push (s : Cutting) (m : Mark) : Cutting :=
  { s with field := some (m :: s.field.getD []), afterBlank := false }

/-- The field ends here. -/
def finish (s : Cutting) : Cutting :=
  { s with fields := (s.field.getD []).reverse :: s.fields, field := none,
           left := s.left.map (· - 1) }

/-- Goes on behind a separator. -/
def separate (s : Cutting) (m : Mark) (blank : Bool) : Cutting :=
  let afterBlank := blank && !s.behindApart
  if s.field.isNone && afterBlank then s
  else if s.left = some 1 then
    { s with field := some (m :: s.field.getD []), left := some 0, afterBlank,
             kept := some (s.field.getD []).length }
  else { s.finish with afterBlank }

/-- Goes on behind a character of the last field that there may be. -/
def collect (s : Cutting) (m : Mark) (separates blank : Bool) : Cutting :=
  let size := (s.field.getD []).length
  let kept := if blank then s.kept.or (some size)
    else if separates && s.afterBlank then s.kept
    else none
  { s with field := some (m :: s.field.getD []), kept, afterBlank := blank && s.afterBlank }

/-- Goes on behind a cell. -/
def next (separators : List Char) (s : Cutting) : Cell → Cutting
  | .mark => { s with field := some (s.field.getD []), afterBlank := false }
  | .edge apart => { s with afterBlank := false, behindApart := s.apart, apart }
  | .cut => s.finish
  | .gap => if s.afterBlank then s else s.separate (' ', false) true
  | .char c quoted given =>
    if !given then s.push (c, quoted)
    else
      let separates := separators.contains c
      let blank := separates && isBlank c
      if s.left = some 0 then s.collect (c, quoted) separates blank
      else if s.afterBlank && separates then { s with afterBlank := blank }
      else if separates then s.separate (c, quoted) blank
      else s.push (c, quoted)

/-- The fields, when all cells are behind. -/
def all (s : Cutting) : List (List Mark) :=
  let last := match s.kept with
    | some size => (s.field.map fun field => (field.reverse.take size).reverse).filter (· ≠ [])
    | none => s.field
  let last := if s.apart then some (last.getD []) else last
  (last.toList.map List.reverse ++ s.fields).reverse

end Cutting

/-- The fields of an expanded word. -/
def Cell.fields (separators : List Char) (cells : List Cell) : List (List Mark) :=
  (cells.foldl (Cutting.next separators) (.start none)).all

/-- The fields of a line that is shared out, so many at most. -/
def Cell.shares (separators : List Char) (count : Nat) (cells : List Cell) : List String :=
  (cells.foldl (Cutting.next separators) (.start (some count))).all.map fun field =>
    String.ofList (field.map Prod.fst)

end CheckMatrix.Shell
