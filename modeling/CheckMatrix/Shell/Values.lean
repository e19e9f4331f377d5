/-
What tildes and names in words stand for.

A tilde at the beginning of a word stands for a home directory, and in a setting it does so behind
each colon too.  A name behind a dollar sign stands for a value, and two of them for all arguments,
which stay apart where a word may become several fields.
-/
import CheckMatrix.Shell.Fields
import CheckMatrix.Shell.State
import CheckMatrix.Text.Cut

namespace CheckMatrix.Shell

/-! ### Home directories -/

/-- The home directory of a user, and that of the shell for no name. -/
def State.homeOf? (s : State) (user : String) : Option String :=
  if user.isEmpty then s.held? "HOME" else if user = "root" then some "/root" else none

/-- A part of a text at whose beginning a tilde may stand for a home directory; `isWhole` tells that
its last name ends with it. -/
def homedPart (s : State) (isWhole : Bool) (part : List Char) : List Piece :=
  let plain := [Piece.text (String.ofList part) false]
  match part with
  | '~' :: rest =>
    let user := rest.takeWhile (· ≠ '/')
    if user.length = rest.length && !isWhole then plain
    else
      match s.homeOf? (String.ofList user) with
      | some home =>
        let behind := rest.drop user.length
        .text home true ::
          if behind.isEmpty then [] else [.text (String.ofList behind) false]
      | none => plain
  | _ => plain

/-- The parts of a text with home directories in place of tildes; `begins` tells that a tilde may
stand in front. -/
def homedParts (s : State) (isLast : Bool) : (begins : Bool) → List (List Char) → List Piece
  | _, [] => []
  | begins, part :: rest =>
    let isWhole := isLast || !rest.isEmpty
    let here := if begins then homedPart s isWhole part else [.text (String.ofList part) false]
    if rest.isEmpty then here
    else here ++ .text ":" false :: homedParts s isLast true rest

/-- The pieces behind the first one with home directories in place of tildes behind colons. -/
def homedFrom (s : State) : (begins : Bool) → Word → Word
  | _, [] => []
  | begins, .text content false :: rest =>
    homedParts s rest.isEmpty begins (Text.cut (· = ':') content.toList) ++ homedFrom s false rest
  | _, piece :: rest => piece :: homedFrom s false rest

/-- A word with home directories in place of tildes. -/
def homed (s : State) (inSetting : Bool) (w : Word) : Word :=
  match w with
  | .text content false :: rest =>
    if inSetting then homedFrom s true w
    else if content.startsWith "~" then homedPart s rest.isEmpty content.toList ++ rest
    else w
  | _ => if inSetting then homedFrom s true w else w

/-! ### Values -/

/-- How a word is expanded: `inBraces` tells that what is not quoted in it is cut like a value, and
`apart` that it may become several fields. -/
structure Manner where
  inBraces : Bool
  apart : Bool
  deriving DecidableEq, Repr

/-- The word becomes a single text. -/
def Manner.single : Manner := ⟨false, false⟩

/-- The name stands for all arguments. -/
def isEveryArgument (name : String) : Bool :=
  name = "@" || name = "*"

/-- All arguments as one text. -/
def State.joined (s : State) : String :=
  s.joint.intercalate s.args

/-- The text that a name stands for. -/
def State.textOf? (s : State) (name : String) : Option String :=
  if isEveryArgument name then some s.joined else s.value? name

/-- The cells of what a name stands for. -/
def State.cellsOf (s : State) (m : Manner) (name : String) (quoted : Bool) : List Cell :=
  if m.apart && (name = "@" || (name = "*" && !quoted)) then Cell.ofValues s.args quoted
  else Cell.ofValue ((s.textOf? name).getD "") quoted

/-- The cells of what a name stands for with something cut off.  Arguments that stay apart are cut as
one text in which they end with the character that no text holds. -/
def State.cellsOfCut (s : State) (m : Manner) (name : String) (quoted : Bool)
    (cut : List Char → List Char) : List Cell :=
  if m.apart && (name = "@" || (name = "*" && !quoted)) then
    if s.args.isEmpty then []
    else
      let kept := cut ("\x00".intercalate s.args).toList
      Cell.ofValues ((Text.cut (· = '\x00') kept).map String.ofList) quoted
  else Cell.ofValue (String.ofList (cut ((s.textOf? name).getD "").toList)) quoted

/-- The cells of a text that is written in a word. -/
def Manner.cells (m : Manner) (content : String) (quoted : Bool) : List Cell :=
  if m.inBraces && !quoted then .edge false :: Cell.ofText content false true
  else Cell.ofText content quoted false

/-- Bytes without the line feeds at their end. -/
def withoutLastLines (bytes : List UInt8) : List UInt8 :=
  (bytes.reverse.dropWhile (· = 10)).reverse

end CheckMatrix.Shell
