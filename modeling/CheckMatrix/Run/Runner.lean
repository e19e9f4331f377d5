/-
Who runs the commands.

A runner is a function: given the commands that were run before, the file tree as it stands and one
more command, it says what comes of it.  Whatever a real or a scripted runner can do is such a
function, so what holds for every runner holds for all of them.
-/
import CheckMatrix.Command
import CheckMatrix.FileTree.Basic
import CheckMatrix.Run.Duration

namespace CheckMatrix

/-- The two streams of a terminal. -/
inductive Stream
  | out
  | err
  deriving DecidableEq, Repr

/-- Bytes that appeared on a terminal, in order. -/
abbrev Transcript := List (Stream × List UInt8)

namespace Transcript

/-- A text on a stream. -/
def ofText (stream : Stream) (text : String) : Transcript :=
  [(stream, Text.encode text.toList)]

/-- The bytes on one stream. -/
def bytesOn (t : Transcript) (stream : Stream) : List UInt8 :=
  t.flatMap fun chunk => if chunk.1 = stream then chunk.2 else []

/-- The text on one stream. -/
def textOn (t : Transcript) (stream : Stream) : String :=
  String.ofList (Text.decode (t.bytesOn stream))

end Transcript

/-- What comes of running a command: its outcome, the tree it leaves, whether the run was cancelled
in the meantime, what appeared on the terminal and how long it took. -/
structure Reaction where
  outcome : CommandOutcome
  tree : FileTree
  cancels : Bool
  shown : Transcript
  took : Duration

/-- Whoever runs commands. -/
abbrev Runner := (past : List Command) → FileTree → Command → Reaction

end CheckMatrix
