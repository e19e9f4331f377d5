/-
What is written about a run.

The report has a line per recorded step and a line with the verdict.  Behind it come the ends of the
logs of the steps that failed.  Both are texts first and are then written to a sink, the report
followed by a flush.  The listing of a plan is written in the same way.

A text is handed to a sink at once, where the program hands over line by line.  The sink ends up
with the same bytes and the same error either way (`Sink.write_append`).
-/
import CheckMatrix.FileTree.Operations
import CheckMatrix.Ledger
import CheckMatrix.Plan
import CheckMatrix.Sink
import CheckMatrix.Text.Lines
import CheckMatrix.Voice

namespace CheckMatrix

/-- A line of output. -/
def line (text : String) : String :=
  text ++ "\n"

/-! ### The report -/

/-- The text of a report and the exit code that goes with it. -/
structure Report where
  text : String
  exitCode : Int
  deriving DecidableEq, Repr

namespace Report

/-- Whether the report is that of a run without failures. -/
def passed (r : Report) : Bool :=
  r.exitCode = 0

/-- The line for one step. -/
def stepLine (o : StepOutcome) : String :=
  line ("- " ++ o.name ++ " : " ++ if o.success then "OK" else "ERROR")

/-- The line for the verdict. -/
def verdictLine (passed : Bool) : String :=
  line (if passed then "All checks passed" else "Some checks failed")

/-- The report over a ledger; there is none over an empty one. -/
def ofLedger (l : Ledger) : Except ConfigError Report :=
  match l.verdict with
  | .error e => .error e
  | .ok passed =>
    .ok ⟨String.join (l.outcomes.map stepLine) ++ verdictLine passed, if passed then 0 else 1⟩

/-- The report with what stands above it. -/
def written (v : Voice) (r : Report) : String :=
  line "" ++ line (v.paint .bold v.wording.reportBanner) ++ r.text

/-- Writes a report and flushes the sink.  The empty line, the banner and the report are one text
here and three pieces where the program writes them, which comes to the same by
`Sink.write_append`. -/
def write (v : Voice) (r : Report) (s : Sink) : Sink × Except SinkError Unit :=
  match s.write (r.written v) with
  | (after, .ok ()) => (after, after.flush)
  | refused => refused

end Report

/-! ### The logs of failed steps -/

/-- The number of lines that are shown of a log. -/
def shownLogLines : Nat := 40

/-- The line above and below a log. -/
def rule : String :=
  String.ofList (List.replicate 80 '-')

/-- The failed steps that have a log file, in order, with its path. -/
def failuresWithLog (t : FileTree) (l : Ledger) : List (StepOutcome × Path) :=
  l.failures.filterMap fun o =>
    match o.log with
    | some log => if t.isFile log then some (o, log) else none
    | none => none

/-- The last lines of a file. -/
def tailOfFile (t : FileTree) (p : Path) (count : Nat) : Except FileError (List String) :=
  match t.readFile p with
  | .ok content => .ok ((Text.tail count (Text.lines (Text.decode content))).map String.ofList)
  | .error e => .error e

/-- The end of a log as it is shown. -/
def logLines (v : Voice) (t : FileTree) (log : Path) : String :=
  match tailOfFile t log shownLogLines with
  | .ok shown => String.join (shown.map line)
  | .error e => line (v.paint .yellow (v.wording.logUnreadable e.message))

/-- The section on one failed step, number `i` of `n`. -/
def logSection (v : Voice) (t : FileTree) (i n : Nat) (o : StepOutcome) (log : Path) : String :=
  line "" ++
  line ("[" ++ toString i ++ "/" ++ toString n ++ "] " ++
    v.paint .red (v.wording.logHeader o.name log.shown shownLogLines)) ++
  line rule ++ logLines v t log ++ line rule

/-- The sections on all failed steps that have a log file. -/
def failureDetails (v : Voice) (t : FileTree) (l : Ledger) : String :=
  let failed := failuresWithLog t l
  String.join (failed.zipIdx.map fun (f, i) => logSection v t (i + 1) failed.length f.1 f.2)

/-- Writes the sections on the failed steps, as one text again. -/
def writeFailureDetails (v : Voice) (t : FileTree) (l : Ledger) (s : Sink) :
    Sink × Except SinkError Unit :=
  s.write (failureDetails v t l)

/-! ### The listing of a plan -/

/-- The line for one command of a plan. -/
def commandLine (v : Voice) (c : Command) : String :=
  line ("      " ++ v.paint .dimmed "$" ++ " " ++ c.displayLine ++ "  " ++
    v.paint .dimmed ("(" ++ c.dir.shown ++ ")"))

/-- The lines for one step of a plan. -/
def listStep (v : Voice) (s : Step) : String :=
  line ("  - " ++ s.name) ++ String.join (s.commands.map (commandLine v))

/-- The lines for some steps; a step of another group than the one before is preceded by the name
of its group. -/
def listSteps (v : Voice) : (group : Option String) → List Step → String
  | _, [] => ""
  | group, s :: rest =>
    (if group = some s.group then ""
      else line (v.paint .boldCyan (v.wording.planGroup s.group))) ++
    listStep v s ++ listSteps v (some s.group) rest

/-- The listing of a plan. -/
def Plan.listing (v : Voice) (p : Plan) : String :=
  listSteps v none p.steps ++ line (v.paint .bold (v.wording.planTotal p.steps.length))

end CheckMatrix
