/-
Handles for redirections.

A redirection gives a number a file, the handle of another number, none, or what a document in the
script holds.  What it is to get is known before the first one is carried out; the files are opened
one after the other, and the first that cannot be opened ends that.
-/
import CheckMatrix.Shell.State

namespace CheckMatrix.Shell

/-- What a number is to get. -/
inductive Goal
  | file (number : Nat) (attachment : Attachment) (path : String)
  | copy (number : Nat) (source : Option Nat)
  | document (number : Nat) (index : Nat)
  deriving DecidableEq, Repr

/-- What is said about a file that cannot be opened. -/
def openFailure (making : Bool) (path : String) (e : FileError) : String :=
  let reason :=
    if e = .notFound ∨ e = .notDirectory then
      if making then "Directory nonexistent" else "No such file"
    else e.words
  (if making then "cannot create " else "cannot open ") ++ path ++ ": " ++ reason

/-- The world with a file opened. -/
def openAs (s : State) (path : String) : Attachment → Except FileError (World × Handle)
  | .read => s.world.openToRead (.ofPacked path)
  | .append => s.world.openToWrite (.ofPacked path) .addTo
  | .readWrite => s.world.openToWrite (.ofPacked path) .writeOver
  | .clobber => s.world.openToWrite (.ofPacked path) .empty
  | .write =>
    if s.isSet "noclobber" && s.world.tree.isTaken (.ofPacked path) then .error .alreadyExists
    else s.world.openToWrite (.ofPacked path) .empty

/-- Gives a number a file.  The answer tells whether it could be opened. -/
def attachFile (number : Nat) (attachment : Attachment) (path : String) : Act Bool := do
  let s ← get
  match openAs s path attachment with
  | .ok (world, handle) =>
    set ({ s with world }.attach number (some handle))
    return true
  | .error e =>
    warn (openFailure (attachment ≠ .read) path e)
    return false

/-- Gives a number the handle of another one, or none.  The answer tells whether there is one. -/
def attachCopy (number : Nat) : Option Nat → Act Bool
  | none => do
    modify fun s => s.attach number none
    return true
  | some source => do
    match (← get).handle? source with
    | some handle =>
      modify fun s => s.attach number (some handle)
      return true
    | none =>
      warn (toString source ++ ": " ++ FileError.badHandle.words)
      return false

/-- Gives a number a text to read. -/
def attachText (number : Nat) (text : String) : Act Unit :=
  modify fun s =>
    let (world, pipe) := s.world.newPipe (Text.bytesOf text)
    { s with world }.attach number (some (.source pipe))

/-- The number that the target of a copy stands for, if any. -/
def copySource (target : String) : Act (Option Nat) := do
  match target.toList with
  | ['-'] => return none
  | [c] =>
    if c.isDigit then return some (Text.valueOf 10 [c]) else giveUp "Syntax error: Bad fd number"
  | _ => giveUp "Syntax error: Bad fd number"

end CheckMatrix.Shell
