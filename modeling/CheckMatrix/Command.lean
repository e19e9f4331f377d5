/-
Commands, steps and what comes of them.

A command is a program with its words, a working directory and, if its output is kept, a log file.
A step is a named list of commands that are run in order.  A command line is shown in a form that
reads back as the same words.
-/
import CheckMatrix.Path
import CheckMatrix.Text.Words

namespace CheckMatrix

/-- One command of a step. -/
structure Command where
  program : String
  args : List String
  dir : Path
  log : Option Path
  deriving DecidableEq, Repr

namespace Command

/-- The program and its arguments. -/
def words (c : Command) : List String :=
  c.program :: c.args

/-- The command as a line to show: quoted so that it reads back, or simply joined by blanks when
a word has no written form. -/
def displayLine (c : Command) : String :=
  (Words.join? c.words).getD (" ".intercalate c.words)

end Command

/-- A named list of commands; `group` is the group the step belongs to. -/
structure Step where
  name : String
  group : String
  commands : List Command
  deriving DecidableEq, Repr

/-- The log files of a step, in order. -/
def Step.logs (s : Step) : List Path :=
  s.commands.filterMap Command.log

/-! ### Exit codes that no program gives -/

/-- The exit code of a command that could not be started. -/
def launchFailedCode : Int := -1

/-- The exit code of a command that a signal ended. -/
def terminatedCode : Int := -2

/-- The exit code of a step that was cancelled. -/
def cancelledCode : Int := -3

/-! ### Outcomes -/

/-- What came of one command. -/
structure CommandOutcome where
  exitCode : Int
  launchError : Option String
  deriving DecidableEq, Repr

namespace CommandOutcome

/-- A command that ran to its end. -/
def exited (code : Int) : CommandOutcome :=
  ⟨code, none⟩

/-- A command that could not be started, with the reason. -/
def launchFailed (reason : String) : CommandOutcome :=
  ⟨launchFailedCode, some reason⟩

/-- A command that a signal ended. -/
def terminated : CommandOutcome :=
  exited terminatedCode

/-- A command succeeds when it was started and exits with zero. -/
def succeeded (o : CommandOutcome) : Bool :=
  o.launchError.isNone && o.exitCode = 0

end CommandOutcome

/-- What came of one step. -/
structure StepOutcome where
  name : String
  success : Bool
  exitCode : Option Int
  log : Option Path
  deriving DecidableEq, Repr

namespace StepOutcome

/-- A step whose commands all succeeded. -/
def passed (name : String) : StepOutcome :=
  ⟨name, true, none, none⟩

/-- A step that a command failed. -/
def failed (name : String) (code : Int) : StepOutcome :=
  ⟨name, false, some code, none⟩

/-- A step that was cut short or never started. -/
def cancelled (name : String) : StepOutcome :=
  failed name cancelledCode

/-- Whether the step counts as cancelled. -/
def isCancelled (o : StepOutcome) : Bool :=
  o.exitCode = some cancelledCode

/-- The outcome in one line. -/
def message (o : StepOutcome) : String :=
  match o.success, o.exitCode with
  | true, _ => o.name ++ ": ok"
  | false, some code => o.name ++ ": failed with exit code " ++ toString code
  | false, none => o.name ++ ": failed"

end StepOutcome

end CheckMatrix
