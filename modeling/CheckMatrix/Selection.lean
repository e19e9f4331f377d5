/-
Which groups to run.

A selection is a list of names, or nothing, which means the groups that the configuration runs by
default.  Resolving it yields groups of the configuration in their own order, each at most once,
whatever the order and the repetitions of the names are.
-/
import CheckMatrix.Config
import CheckMatrix.ConfigError

namespace CheckMatrix

/-- The groups asked for. -/
inductive Selection
  | default
  | only (names : List String)
  deriving DecidableEq, Repr

namespace Selection

/-- The name of the group that the workspace flag selects. -/
def workspaceGroup : String := "workspace"

/-- The name of the group that the examples flag selects. -/
def examplesGroup : String := "examples"

/-- The selection that flags and names make; without any it is the default. -/
def ofFlags (examples workspace : Bool) (groups : List String) : Selection :=
  let names := (if workspace then [workspaceGroup] else []) ++
    (if examples then [examplesGroup] else []) ++ groups
  if names.isEmpty then .default else .only names

/-- The names a selection asks for; none means every group. -/
def wanted? (s : Selection) (config : Config) : Option (List String) :=
  match s with
  | .default => config.defaultGroups
  | .only names => some names

/-- The selected groups in the order of the configuration, or the first name that no group has. -/
def resolve (s : Selection) (config : Config) : Except ConfigError (List Group) :=
  match s.wanted? config with
  | none => .ok config.groups
  | some names =>
    match names.find? fun name => !config.groups.any (·.name = name) with
    | some unknown => .error (.unknownGroup unknown)
    | none => .ok (config.groups.filter fun g => names.contains g.name)

end Selection

end CheckMatrix
