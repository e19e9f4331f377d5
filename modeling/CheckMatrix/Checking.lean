/-
Checking a project as its configuration says.

The configuration is read first, and it settles the language of everything said afterwards, so what
is wrong with the file itself is still reported in the language spoken before.  Then the directory
of the project is found, what is about to happen is said, and the plan is either listed or run.
-/
import CheckMatrix.CommandLine.Options
import CheckMatrix.ConfigForm
import CheckMatrix.Run.Orchestration
import CheckMatrix.Run.Programs
import CheckMatrix.Toml.Document

namespace CheckMatrix

/-! ### Failures -/

/-- Why a project is not checked. -/
inductive CheckError
  | configUnreadable (path : Path) (cause : FileError)
  | configMalformed (path : Path)
  | projectDirNotFound (path : Path) (cause : FileError)
  | run (cause : RunError)
  deriving DecidableEq, Repr

/-- What is said about a text that is no configuration. -/
def malformed : String := "TOML parse error"

/-- What is said about a path that leads nowhere. -/
def unresolved (path : Path) (cause : FileError) : String :=
  "Failed to resolve path: " ++ path.shown ++ ": " ++ cause.message

/-- What is reported for a failure: the causes from the outermost to the innermost. -/
def CheckError.message (w : Wording) : CheckError → String
  | configUnreadable path cause => w.configUnreadable path.shown ++ ": " ++ cause.message
  | configMalformed path => w.configMalformed path.shown ++ ": " ++ malformed
  | projectDirNotFound path cause => w.projectDirNotFound path.shown ++ ": " ++ unresolved path cause
  | run cause => cause.message

/-! ### Reading the configuration -/

/-- The configuration at a path, and the absolute path of its file. -/
def readConfig (t : FileTree) (path : Path) : Except CheckError (Config × Path) :=
  match t.canonical path with
  | .error cause => .error (.configUnreadable path cause)
  | .ok file =>
    match t.readText file with
    | .error cause => .error (.configUnreadable file cause)
    | .ok text =>
      match (Toml.document? text).bind Config.ofValue? with
      | some config => .ok (config, file)
      | none => .error (.configMalformed file)

/-! ### Checking -/

/-- What a project is checked with: the process that checks it, and who runs the commands given the
voice to speak in and the variables that the commands see on top of those of the process. -/
structure Workbench where
  process : ProcessEnv
  runner : Voice → EnvTable → Runner

/-- The workbench on which commands are run as programs. -/
def Workbench.ofProcess (process : ProcessEnv) : Workbench :=
  ⟨process, fun v table => programRunner process (interruptNotice v) table⟩

/-- How a check ends: the voice that was spoken in last, what was shown, the tree that is left, and
the exit code. -/
structure Ending where
  voice : Voice
  shown : Transcript
  tree : FileTree
  result : Except CheckError Int

/-- The lines that say what is about to happen. -/
def preface (v : Voice) (root file : Path) (config : Config) : List String :=
  [v.wording.projectRoot root.shown, v.wording.loadingMatrix file.shown] ++
    config.env.entries.map fun e => v.paint .dimmed (v.wording.envOverride e.1 e.2)

/-- Lists the plan. -/
def listPlan (b : Workbench) (v : Voice) (config : Config) (selection : Selection) (root : Path)
    (s : Session) : Ending :=
  match plan b.process s.tree config selection root with
  | .error cause => ⟨v, s.shown, s.tree, .error (.run (.ofPlan cause))⟩
  | .ok p => ⟨v, s.shown ++ Transcript.ofText .out (p.listing v), s.tree, .ok 0⟩

/-- What is said behind the report of a run that was cut short. -/
def afterword (v : Voice) (r : RunSummary) : Transcript :=
  if r.interrupted then
    Transcript.ofText .out ("\n" ++ v.paint .boldYellow v.wording.interrupted ++ "\n")
  else []

/-- Runs the plan; the report follows what was said on the way. -/
def runPlan (b : Workbench) (v : Voice) (config : Config) (selection : Selection) (root : Path)
    (s : Session) : Ending :=
  let k : Conductor :=
    { runner := b.runner v config.env, process := b.process, narration := v, reporting := v }
  let (s, sink, result) := k.run config selection root s .unlimited
  let shown := s.shown ++ [(.out, sink.received)]
  match result with
  | .error cause => ⟨v, shown, s.tree, .error (.run cause)⟩
  | .ok r => ⟨v, shown ++ afterword v r, s.tree, .ok r.exitCode⟩

/-- Checks a project. -/
def check (b : Workbench) (v : Voice) (o : RunOptions) (t : FileTree) : Ending :=
  match readConfig t o.config with
  | .error e => ⟨v, [], t, .error e⟩
  | .ok (config, file) =>
    let v := { v with locale := .matching (o.lang.getD config.language) }
    match t.canonical o.projectDir with
    | .error cause => ⟨v, [], t, .error (.projectDirNotFound o.projectDir cause)⟩
    | .ok root =>
      let s := (preface v root file config).foldl Session.say (.start t)
      if o.list then listPlan b v config o.selection root s
      else runPlan b v config o.selection root s

end CheckMatrix
