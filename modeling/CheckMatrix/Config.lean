/-
The configuration of a check matrix.

Templates are texts with placeholders for axis values; groups collect them under a name, and an
axis lists its values or names directories whose sub-directories are values.
-/
import CheckMatrix.Environment

namespace CheckMatrix

/-- A command line with its own working directory and log file. -/
structure CommandTemplate where
  run : String
  dir : Option String
  log : Option String
  deriving DecidableEq, Repr

/-- What one step, or one step per combination of axis values, is made from. -/
structure StepTemplate where
  label : String
  dir : Option String
  commands : List CommandTemplate
  deriving DecidableEq, Repr

/-- Steps that are selected together. -/
structure Group where
  name : String
  description : String
  steps : List StepTemplate
  deriving DecidableEq, Repr

/-- Where the values of an axis come from: a list, and the directories to search for more. -/
structure AxisSource where
  name : String
  values : List String
  dirsIn : List String
  deriving DecidableEq, Repr

/-- A whole configuration.  `defaultGroups` is what runs when nothing is selected; without it
every group runs. -/
structure Config where
  language : String
  env : EnvTable
  defaultGroups : Option (List String)
  axes : List AxisSource
  groups : List Group
  deriving DecidableEq

/-- The language of a configuration that names none. -/
def Config.defaultLanguage : String := "en"

end CheckMatrix
