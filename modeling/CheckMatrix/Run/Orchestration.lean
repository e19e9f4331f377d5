/-
A whole run.

A run plans, executes the steps of the plan one after the other, reports, and is done; each of these
is a phase.  Whatever keeps it from a plan ends it while it plans, before anything runs.  From then
on every step is recorded, however many fail, and a cancelled run records the steps it no longer
starts.  The log files of the plan are removed whichever way the run ends.
-/
import CheckMatrix.LogGuard
import CheckMatrix.Report
import CheckMatrix.Run.StepRun

namespace CheckMatrix

/-- What a run is given besides its configuration: who runs the commands, the process that plans,
and the voices for what is said on the way and for the report. -/
structure Conductor where
  runner : Runner
  process : ProcessEnv
  narration : Voice
  reporting : Voice

/-- Why a run ends without a result: an error of the configuration, or of the report, or everything
broke off. -/
inductive RunError
  | config (cause : ConfigError)
  | report (cause : SinkError)
  | overflow
  deriving DecidableEq, Repr

/-- A run without a plan ends for the reason why there is none. -/
def RunError.ofPlan : PlanError → RunError
  | .config cause => .config cause
  | .overflow => .overflow

/-- What is reported for it. -/
def RunError.message : RunError → String
  | config cause => cause.message
  | report cause => cause.message
  | overflow => "capacity overflow"

/-- The result of a run. -/
structure RunSummary where
  ledger : Ledger
  report : Report

namespace RunSummary

/-- Whether a step of the run was cancelled. -/
def interrupted (r : RunSummary) : Bool :=
  r.ledger.outcomes.any StepOutcome.isCancelled

/-- The exit code of the run. -/
def exitCode (r : RunSummary) : Int :=
  r.report.exitCode

end RunSummary

namespace Conductor

/-- Plans a run. -/
def plan (k : Conductor) (config : Config) (selection : Selection) (root : Path) (s : Session) :
    Session × Except PlanError Plan :=
  (s.enter .expanding, CheckMatrix.plan k.process s.tree config selection root)

/-- The line that starts the steps of a group; steps without a group go on with the one before. -/
def sayGroup (k : Conductor) (group : Option String) (step : Step) (s : Session) : Session :=
  if group = some step.group ∨ step.group.isEmpty then s
  else
    (s.say "").say (k.narration.paint .boldCyan (k.narration.wording.groupStarted step.group))

/-- The group that is current after a step. -/
def groupAfter (group : Option String) (step : Step) : Option String :=
  if step.group.isEmpty then group else some step.group

/-- Executes steps and records their outcomes; `index` is the number of the first of them and
`group` the group whose start was said last. -/
def executeFrom (k : Conductor) :
    (index : Nat) → (group : Option String) → List Step → Ledger → Session →
      Session × Except ConfigError Ledger
  | _, _, [], l, s => (s, .ok l)
  | index, group, step :: rest, l, s =>
    let s := s.enter (.executing index)
    if s.cancelled then
      match l.record (.cancelled step.name) with
      | .error e => (s, .error e)
      | .ok l => executeFrom k (index + 1) group rest l s
    else
      let (s, o) := runStep k.runner k.narration step (k.sayGroup group step s)
      match l.record o with
      | .error e => (s, .error e)
      | .ok l => executeFrom k (index + 1) (groupAfter group step) rest l s

/-- Executes a plan. -/
def execute (k : Conductor) (p : Plan) (s : Session) : Session × Except ConfigError Ledger :=
  k.executeFrom 0 none p.steps .empty s

/-- Writes the report over a ledger and the ends of the logs of failed steps to a sink. -/
def writeReport (k : Conductor) (t : FileTree) (l : Ledger) (r : Report) (sink : Sink) :
    Sink × Except SinkError Unit :=
  match r.write k.reporting sink with
  | (sink, .error e) => (sink, .error e)
  | (sink, .ok ()) => writeFailureDetails k.reporting t l sink

/-- Reports on a ledger. -/
def report (k : Conductor) (l : Ledger) (s : Session) (sink : Sink) :
    Session × Sink × Except RunError Report :=
  let s := s.enter .reporting
  match Report.ofLedger l with
  | .error e => (s, sink, .error (.config e))
  | .ok r =>
    match k.writeReport s.tree l r sink with
    | (sink, .ok ()) => (s, sink, .ok r)
    | (sink, .error e) => (s, sink, .error (.report e))

/-- The guard over the log files of a plan. -/
def guard (p : Plan) : LogGuard :=
  p.logTargets.foldl LogGuard.register .empty

/-- Removes the log files and says `notice` of each that stays. -/
def cleanUp (notice : Path × FileError → String) (g : LogGuard) (s : Session) : Session :=
  let (tree, failed) := g.cleanup s.tree
  failed.foldl (fun s failure => s.warn (notice failure)) { s with tree }

/-- What is said about a log file that stays after a complete run. -/
def keptLogNotice (k : Conductor) (failure : Path × FileError) : String :=
  k.narration.paint .yellow
    (k.narration.wording.logCleanupFailed failure.1.shown failure.2.message)

/-- Executes a plan and reports, then removes the log files. -/
def perform (k : Conductor) (p : Plan) (s : Session) (sink : Sink) :
    Session × Sink × Except RunError RunSummary :=
  match k.execute p s with
  | (s, .error e) => (cleanUp LogGuard.dropNotice (guard p) s, sink, .error (.config e))
  | (s, .ok l) =>
    match k.report l s sink with
    | (s, sink, .error e) => (cleanUp LogGuard.dropNotice (guard p) s, sink, .error e)
    | (s, sink, .ok r) =>
      ((cleanUp k.keptLogNotice (guard p) s).enter .done, sink, .ok ⟨l, r⟩)

/-- The line that starts the execution of a plan. -/
def sayPlan (k : Conductor) (p : Plan) (s : Session) : Session :=
  s.say (k.narration.paint .bold
    (k.narration.wording.planSummary p.steps.length (", ".intercalate p.groups)))

/-- A whole run. -/
def run (k : Conductor) (config : Config) (selection : Selection) (root : Path) (s : Session)
    (sink : Sink) : Session × Sink × Except RunError RunSummary :=
  match k.plan config selection root s with
  | (s, .error e) => (s, sink, .error (.ofPlan e))
  | (s, .ok p) => k.perform p (k.sayPlan p s) sink

end Conductor

end CheckMatrix
