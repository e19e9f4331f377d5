/-
Running one step.

The commands of a step run in order.  The first that fails ends the step, and so does a cancelled
run before the next command.  Either is an outcome like any other, so the run can go on with the
next step.
-/
import CheckMatrix.Run.Session
import CheckMatrix.Voice

namespace CheckMatrix

/-- Runs the commands of a step that are left; `log` is the last log file written for the step. -/
def runCommands (runner : Runner) (v : Voice) (name : String) :
    List Command → (log : Option Path) → Session → Session × StepOutcome
  | [], log, s => (s, { StepOutcome.passed name with log })
  | c :: rest, log, s =>
    if s.cancelled then
      (s.say (v.paint .yellow (v.wording.stepCancelled name)),
        { StepOutcome.cancelled name with log })
    else
      let (s, outcome) :=
        (s.say ("  " ++ v.paint .dimmed "$" ++ " " ++ c.displayLine)).run runner c
      let s :=
        match outcome.launchError with
        | some reason => s.say ("  " ++ v.paint .red (v.wording.launchFailed reason))
        | none => s
      if outcome.succeeded then runCommands runner v name rest (c.log.or log) s
      else (s, { StepOutcome.failed name outcome.exitCode with log := c.log })

/-- The line that ends a step; a cancelled step has had its line already. -/
def sayOutcome (v : Voice) (o : StepOutcome) (took : Duration) (s : Session) : Session :=
  if o.success then s.say (v.paint .green (v.wording.stepPassed o.name took.brief))
  else if o.isCancelled then s
  else
    s.say (v.paint .red
      (v.wording.stepFailed o.name (toString (o.exitCode.getD 0)) took.brief))

/-- Runs a step and says so. -/
def runStep (runner : Runner) (v : Voice) (step : Step) (s : Session) : Session × StepOutcome :=
  let begun := s.clock.nanoseconds
  let (s, o) :=
    runCommands runner v step.name step.commands none
      (s.say (v.paint .blue (v.wording.stepStarted step.name)))
  (sayOutcome v o ⟨s.clock.nanoseconds - begun⟩ s, o)

end CheckMatrix
