/-
How shells begin.

A shell begins with the arguments, variables and handles that it is called with.  A copy of it begins
with what the shell remembers, and goes on as a process of its own.
-/
import CheckMatrix.Shell.Signals

namespace CheckMatrix.Shell

namespace State

/-! ### A new shell -/

/-- The directory that a shell takes for its own: the one it is told, if that is where it is. -/
def placeTold (env : List (String × String)) (world : World) : String :=
  let place := (Location.path world.base.cwd).packed
  match (env.lookup "PWD").filter (·.startsWith "/") with
  | some path =>
    match world.tree.find (.ofPacked path) with
    | .ok (l, _) => if l = world.base.cwd then path else place
    | .error _ => place
  | none => place

/-- The variables that a shell begins with. -/
def firstVariables (c : Call) (here : String) : List Variable :=
  let own (name value : String) : Variable := ⟨name, some value, false, false⟩
  let set_ (vars : List Variable) (v : Variable) : List Variable :=
    if vars.any (·.name = v.name) then
      vars.map fun old =>
        if old.name = v.name then { v with exported := v.exported || old.exported } else old
    else vars ++ [v]
  let given := c.env.filterMap fun e =>
    let (name, value) := cutSetting (e.1 ++ "=" ++ e.2)
    if isName name then some ⟨name, value, true, false⟩ else none
  let path := own "PATH" "/usr/local/sbin:/usr/local/bin:/usr/sbin:/usr/bin:/sbin:/bin"
  let vars := given.foldl set_ [path, own "PS1" "# ", own "PS2" "> ", own "PS4" "+ "]
  let vars := [own "IFS" " \t\n", own indexName "1", own "PPID" (toString c.caller)].foldl set_ vars
  set_ vars ⟨"PWD", some here, true, false⟩

/-- A shell in which nothing has happened. -/
def start (c : Call) (name : String) (args options : List String) (world : World) : State :=
  let here := placeTold c.env world
  { name, args, vars := firstVariables c here, functions := [], aliases := [],
    traps := [], ignored := c.ignored, options, remembered := [], documents := [], status := 0,
    saved := none, substituted := none, origin := c.pid, own := c.pid, parent := c.caller,
    lastJob := none, handles := c.handles, kept := [], here, mask := 18, argument := 1,
    letter := none, line := 1, within := none, loops := 0, calls := 0, locals := none,
    localOptions := none, jobs := [], world }

/-! ### Copies -/

/-- What a copy of a shell begins with.  Of its actions for signals, only the empty ones stay. -/
def copied (s : State) (own : Nat) (handles : List (Nat × Handle)) : State :=
  { s with own, handles, parent := s.own, kept := [], traps := s.traps.filter (·.2.isEmpty),
           saved := none, jobs := [] }

/-- What the others know of a shell. -/
def record (s : State) : ProcessRecord where
  pid := s.own
  held := s.handles.map Prod.snd ++ s.kept
  caught := caughtSignals s.traps
  ignored := ignoredSignals s.ignored s.traps
  ended := none

/-- What a shell does that acts up to its end. -/
def activity (s : State) (act : Act Exit) (w : World) : Activity :=
  act { s with world := w } fun result after =>
    .ended (result.toOption.getD (.exited 2)) after.world

end State

/-! ### Processes of a shell -/

/-- A new number for a process. -/
def newPid : Act Nat :=
  onWorld do
    let (world, pid) := (← get).newPid
    set world
    return pid

/-- A new pipe. -/
def newPipe : Act Nat :=
  onWorld do
    let (world, pipe) := (← get).newPipe []
    set world
    return pipe

/-- Starts a copy of the shell that acts up to its end. -/
def startCopy (copy : State) (act : Act Exit) : Act Unit :=
  onWorld do
    modify fun w => w.enrol copy.record
    Doing.start copy.own (copy.activity act)

/-- Starts a program that was called. -/
def startCall (c : Call) (doing : Doing Exit) : Act Unit :=
  onWorld do
    modify fun w => w.enrol ⟨c.pid, c.handles.map Prod.snd, [], c.ignored, none⟩
    Doing.start c.pid fun w => doing w .ended

/-- Waits for the end of a process, and takes notice of the jobs that have ended by then. -/
def awaitEnd (pid : Nat) : Act Exit := do
  onWorld (Doing.await (.ending pid))
  let exit_ := ((← get).world.ending? pid).getD (.exited 0)
  onWorld (modify fun w => w.dismiss pid)
  modify State.noticeJobs
  return exit_

end CheckMatrix.Shell
