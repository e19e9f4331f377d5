/-
From a configuration to a plan.

A plan is made in a fixed order: the selected groups, the axes their templates refer to, and then
group after group its steps, each with a fresh name, anchored paths and working directories that
exist.  Nothing is changed on the way, and whatever is wrong is found before anything runs.
-/
import CheckMatrix.Expansion
import CheckMatrix.FileTree.Discovery
import CheckMatrix.Selection

namespace CheckMatrix

/-- The steps of a run in order, and the names of the groups they come from. -/
structure Plan where
  groups : List String
  steps : List Step
  deriving DecidableEq, Repr

/-- Every log file that a plan may make, without repetition. -/
def Plan.logTargets (p : Plan) : List Path :=
  keepFirst Path.same (p.steps.flatMap Step.logs)

/-! ### Axes -/

/-- The axis that a source makes in a file tree: its own values, then those found in directories. -/
def AxisSource.resolve (tree : FileTree) (root : Path) (source : AxisSource) :
    Except ConfigError Axis := do
  let found ← source.dirsIn.mapM fun dir =>
    match tree.listSubdirs root dir with
    | .ok names => .ok names
    | .error path => .error (.missingAxisSource source.name path)
  Axis.ofValues source.name (source.values ++ found.flatten)

/-- The axes that are referred to.  A name that was seen before is refused, also for an axis that
nobody refers to; directories are searched only for the others. -/
def resolveAxes (tree : FileTree) (root : Path) (referenced : List String) :
    (seen : List String) → List AxisSource → Except ConfigError (List Axis)
  | _, [] => .ok []
  | seen, source :: rest =>
    if source.name ∈ seen then .error (.duplicateAxis source.name)
    else if source.name ∈ referenced then do
      let axis ← source.resolve tree root
      let others ← resolveAxes tree root referenced (source.name :: seen) rest
      return axis :: others
    else resolveAxes tree root referenced (source.name :: seen) rest

/-! ### Steps -/

/-- A command with its paths anchored at the root, in a working directory that exists. -/
def Command.anchor (tree : FileTree) (root : Path) (step : String) (c : Command) :
    Except ConfigError Command :=
  let dir := root.anchor c.dir
  if tree.isDirectory dir then .ok { c with dir, log := c.log.map root.anchor }
  else .error (.missingWorkingDir step dir)

/-- Gives steps to a group.  A name that is taken is refused before the step is looked at. -/
def placeSteps (tree : FileTree) (root : Path) (group : String) :
    (taken : List String) → List Step → Except ConfigError (List Step)
  | _, [] => .ok []
  | taken, s :: rest =>
    if s.name ∈ taken then .error (.duplicateStep s.name)
    else do
      let commands ← s.commands.mapM (Command.anchor tree root s.name)
      let others ← placeSteps tree root group (s.name :: taken) rest
      return { s with group, commands } :: others

/-- The steps of some groups when the names `taken` are used already. -/
def planGroups (tree : FileTree) (root : Path) (env : Environment) (axes : List Axis) :
    (taken : List String) → List Group → Except PlanError (List Step)
  | _, [] => .ok []
  | taken, g :: rest => do
    let steps ← expand env axes g.steps
    let placed ← checked (placeSteps tree root g.name taken steps)
    let others ← planGroups tree root env axes (placed.map Step.name ++ taken) rest
    return placed ++ others

/-- The names of the axes that the templates of some groups refer to. -/
def referencedAxes (groups : List Group) : List String :=
  (groups.flatMap Group.steps).flatMap StepTemplate.referencedAxes

/-- The plan for the selected groups of a configuration. -/
def plan (process : ProcessEnv) (tree : FileTree) (config : Config) (selection : Selection)
    (root : Path) : Except PlanError Plan := do
  let groups ← checked (selection.resolve config)
  let axes ← checked (resolveAxes tree root (referencedAxes groups) [] config.axes)
  let steps ← planGroups tree root ⟨config.env, process⟩ axes [] groups
  if steps.isEmpty then .error (.config .emptyRun)
  else return ⟨groups.map Group.name, steps⟩

end CheckMatrix
