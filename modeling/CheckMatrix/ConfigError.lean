/-
What can be wrong with a configuration.

All of these are found while a run is planned, before any command starts, except for the two that
a ledger can raise on its own: a step recorded twice and a verdict over nothing.

Planning has one more way to end without a plan, which is no verdict on the configuration: the steps
of a template may be more than room can be asked for, and then everything breaks off.
-/
import CheckMatrix.Path
import CheckMatrix.Text.Quoted

namespace CheckMatrix

/-- The causes for which a configuration is refused. -/
inductive ConfigError
  | duplicateStep (name : String)
  | duplicateAxis (name : String)
  | duplicateAxisValue (axis value : String)
  | emptyAxis (axis template : String)
  | unknownAxis (template axis : String)
  | missingAxisSource (axis : String) (path : Path)
  | missingWorkingDir (step : String) (path : Path)
  | invalidCommand (template command : String)
  | undefinedVariable (template word reason : String)
  | unknownGroup (name : String)
  | emptyRun
  deriving DecidableEq, Repr

/-- What is reported for a cause. -/
def ConfigError.message : ConfigError → String
  | duplicateStep name => "duplicate check step name: '" ++ name ++ "'"
  | duplicateAxis name => "axis '" ++ name ++ "' is defined more than once"
  | duplicateAxisValue axis value =>
    "axis '" ++ axis ++ "' lists value '" ++ value ++ "' more than once"
  | emptyAxis axis template =>
    "axis '" ++ axis ++ "' has no values but is referenced by '" ++ template ++ "'"
  | unknownAxis template axis => "'" ++ template ++ "' references unknown axis '" ++ axis ++ "'"
  | missingAxisSource axis path =>
    "axis '" ++ axis ++ "' discovers values in '" ++ path.shown ++ "', which is not a directory"
  | missingWorkingDir step path =>
    "working directory '" ++ path.shown ++ "' of step '" ++ step ++ "' does not exist"
  | invalidCommand template command =>
    "invalid command in '" ++ template ++ "': " ++ Text.quoted command
  | undefinedVariable template word reason =>
    "cannot expand '" ++ word ++ "' in '" ++ template ++ "': " ++ reason
  | unknownGroup name => "unknown check group '" ++ name ++ "'"
  | emptyRun => "the run contains no check steps"

/-- Why there is no plan: the configuration is refused, or the steps of a template need more room
than can be asked for. -/
inductive PlanError
  | config (cause : ConfigError)
  | overflow
  deriving DecidableEq, Repr

/-- A check of the configuration on the way to a plan. -/
def checked {α : Type} (result : Except ConfigError α) : Except PlanError α :=
  result.mapError .config

end CheckMatrix
