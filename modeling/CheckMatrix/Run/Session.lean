/-
The state that a run goes through.

A session is everything a run can change: the file tree, whether it is cancelled, how much time has
passed, what was shown, and a trace of the phases that were entered and the commands that were run.
The phase a run is in and the commands a runner has seen are read off the trace.
-/
import CheckMatrix.Run.Runner

namespace CheckMatrix

/-- The phases of a run. -/
inductive Phase
  | notStarted
  | expanding
  | executing (index : Nat)
  | reporting
  | done
  deriving DecidableEq, Repr

/-- What happens in a run. -/
inductive Event
  | entered (phase : Phase)
  | ran (command : Command)
  deriving DecidableEq, Repr

/-- The phase that an event starts. -/
def Event.phase? : Event → Option Phase
  | .entered phase => some phase
  | .ran _ => none

/-- The command that an event is about. -/
def Event.command? : Event → Option Command
  | .entered _ => none
  | .ran command => some command

/-- The state of a run. -/
structure Session where
  tree : FileTree
  cancelled : Bool
  clock : Duration
  trace : List Event
  shown : Transcript

namespace Session

/-- A session in which nothing has happened. -/
def start (tree : FileTree) : Session :=
  ⟨tree, false, ⟨0⟩, [], []⟩

/-- The phase entered last. -/
def phase (s : Session) : Phase :=
  ((s.trace.filterMap Event.phase?).getLast?).getD .notStarted

/-- The commands run, in order. -/
def commands (s : Session) : List Command :=
  s.trace.filterMap Event.command?

/-- Enters a phase. -/
def enter (s : Session) (phase : Phase) : Session :=
  { s with trace := s.trace ++ [.entered phase] }

/-- Cancels the run.  It stays cancelled. -/
def cancel (s : Session) : Session :=
  { s with cancelled := true }

/-- Shows a line. -/
def say (s : Session) (text : String) : Session :=
  { s with shown := s.shown ++ Transcript.ofText .out (text ++ "\n") }

/-- Shows a line on the error stream. -/
def warn (s : Session) (text : String) : Session :=
  { s with shown := s.shown ++ Transcript.ofText .err (text ++ "\n") }

/-- Has a command run. -/
def run (s : Session) (runner : Runner) (c : Command) : Session × CommandOutcome :=
  let r := runner s.commands s.tree c
  ({ tree := r.tree, cancelled := s.cancelled || r.cancels,
     clock := ⟨s.clock.nanoseconds + r.took.nanoseconds⟩,
     trace := s.trace ++ [.ran c], shown := s.shown ++ r.shown }, r.outcome)

end Session

end CheckMatrix
