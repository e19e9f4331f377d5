/-
Running commands as programs.

A command is run where it says, with the variables of the configuration on top of those of the
process.  Its log file is made first, with the directories above it, and takes both of its output
streams; what comes before the start and fails is a failed launch with a reason.  An interrupt of
the process that checks is noticed while the command goes on, and cancels the run behind it.
-/
import CheckMatrix.Run.Runner
import CheckMatrix.Shell.Evaluator
import CheckMatrix.Voice

namespace CheckMatrix

/-- What is shown at the moment of an interrupt. -/
def interruptNotice (v : Voice) : Transcript :=
  Transcript.ofText .out ("\n" ++ v.paint .yellow v.wording.interruptReceived ++ "\n")

/-- Makes the log file of a command, empty, and the directories above it. -/
def openLog (w : World) (log : Path) : World × Except FileError Handle :=
  let (tree, made) := match log.parent? with
    | some dir => w.tree.makeDirs dir
    | none => (w.tree, .ok ())
  let w := w.withTree tree
  match made with
  | .error e => (w, .error e)
  | .ok () =>
    match w.openToWrite log .empty with
    | .ok (w, handle) => (w, .ok handle)
    | .error e => (w, .error e)

/-- The handles of a command: both outputs go to the log if there is one. -/
def commandHandles (log : Option Handle) : List (Nat × Handle) :=
  [(0, .nowhere), (1, log.getD (.terminal .out)), (2, log.getD (.terminal .err))]

/-- A text that no program can be given. -/
def holdsNul (text : String) : Bool :=
  text.toList.contains '\x00'

/-- Starts the program of a command in its directory, with the log open.  Programs are given the
bytes of texts. -/
def launch (env : List (String × String)) (c : Command) (dir : Location) (log : Option Handle)
    (w : World) : World × CommandOutcome :=
  if c.words.any holdsNul ∨ env.any fun e => holdsNul e.1 || holdsNul e.2 then
    (w, .launchFailed (c.program ++ ": nul byte found in provided data"))
  else
    let (there, pid) := (w.within dir).newPid
    let call : Call := {
      name := Text.packed c.program, pid, caller := World.checkerPid,
      args := c.args.map Text.packed,
      env := env.map fun e => (Text.packed e.1, Text.packed e.2),
      handles := commandHandles log, ignored := [] }
    match call.program? there.tree with
    | .error e => (w, .launchFailed (c.program ++ ": " ++ e.message))
    | .ok program =>
      match Shell.run program call there with
      | (after, .exited code) => (after, .exited code)
      | (after, .killed _) => (after, .terminated)

/-- Runs a command, having made its log file. -/
def runLogged (env : List (String × String)) (c : Command) (dir : Location) (w : World) :
    World × CommandOutcome :=
  match c.log with
  | none => launch env c dir none w
  | some log =>
    match openLog w log with
    | (w, .ok handle) => launch env c dir (some handle) w
    | (w, .error e) =>
      (w, .launchFailed ("cannot open log file " ++ log.shown ++ ": " ++ e.message))

/-- The variables that commands see, in order. -/
def commandEnv (process : ProcessEnv) (table : EnvTable) : List (String × String) :=
  (EnvTable.ofList (process.vars.reverse ++ table.entries)).entries

/-- Runs commands as programs; `notice` is shown when the process that checks is interrupted. -/
def programRunner (process : ProcessEnv) (notice : Transcript) (table : EnvTable) : Runner :=
  fun _ tree c =>
    match tree.find c.dir with
    | .ok (dir, .dir) =>
      let (w, outcome) := runLogged (commandEnv process table) c dir (.start tree notice)
      ⟨outcome, w.tree.within tree.cwd, w.interrupted, w.shown.reverse, ⟨0⟩⟩
    | _ =>
      ⟨.launchFailed ("working directory " ++ c.dir.shown ++ " does not exist"), tree, false, [],
        ⟨0⟩⟩

end CheckMatrix
