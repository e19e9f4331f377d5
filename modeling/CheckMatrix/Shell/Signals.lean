/-
Signals of a shell.

A shell can have an action for each signal, which is carried out when the command at hand has ended;
an empty action makes the signal do nothing.  Signals are sent to the shell itself, to the shells
around it, to its jobs and to the process that checks a project.
-/
import CheckMatrix.Shell.Jobs

namespace CheckMatrix.Shell

/-! ### Actions -/

/-- The signal that a word names, where the end of the shell counts as one. -/
def actionSignal? (word : String) : Option Nat :=
  if word.toUpper = "EXIT" then some 0 else Signal.ofWord? word

/-- The name of a signal, or of the end of the shell. -/
def actionName (signal : Nat) : String :=
  if signal = 0 then "EXIT" else Signal.name signal

/-- The signals that a shell acts upon. -/
def caughtSignals (traps : List (Nat × String)) : List Nat :=
  (traps.filter fun entry => entry.1 ≠ 0 && !entry.2.isEmpty).map Prod.fst

/-- The signals that do nothing to a shell. -/
def ignoredSignals (ignored : List Nat) (traps : List (Nat × String)) : List Nat :=
  ignored ++ (traps.filter fun entry => entry.2.isEmpty).map Prod.fst

/-- The state with actions for signals, as the others know of them. -/
def State.withTraps (s : State) (traps : List (Nat × String)) : State :=
  { s with
    traps,
    world := s.world.changeProcess s.own fun m =>
      { m with caught := caughtSignals traps, ignored := ignoredSignals s.ignored traps } }

/-- The state with an action for a signal, or none. -/
def State.withAction (s : State) (signal : Nat) (action : Option String) : State :=
  s.withTraps ((action.map fun action => (signal, action)).toList ++
    s.traps.filter (·.1 ≠ signal))

/-- Sets actions, or shows them. -/
def setActions (args : List String) : Act Unit := do
  let (_, words) ← optionsOf [] args
  setStatus 0
  match words with
  | [] =>
    let all := (← get).traps.mergeSort fun a b => a.1 ≤ b.1
    say (String.join (all.map fun (signal, action) =>
      "trap -- " ++ shellQuoted action ++ " " ++ actionName signal ++ "\n"))
  | first :: rest =>
    let resets := rest.isEmpty || (Signal.ofWord? first).isSome && first.toList.all Char.isDigit
    let action := if resets || first = "-" then none else some first
    for word in if resets then words else rest do
      match actionSignal? word with
      | some signal => modify fun s => s.withAction signal action
      | none =>
        complain ("trap: " ++ word ++ ": bad trap")
        setStatus 1
        return

/-! ### Sending signals -/

/-- What is said about a call without targets. -/
def killUsage : String :=
  "Usage: kill [-s sigspec | -signum | -sigspec] [pid | job]... or\nkill -l [exitstatus]"

/-- Sends a signal to a process.  The answer tells whether there is one. -/
def sendSignal (signal pid : Nat) : Act Bool := do
  let s ← get
  if pid = World.checkerPid then
    if signal = Signal.interrupt then onWorld (modify World.interrupt)
    return true
  else if pid = s.own ∧ s.world.effectOn pid signal = .death then throw (.killed signal)
  else
    onWorld (modify fun w => w.post pid signal)
    return (s.world.process? pid).isSome

/-- Sends a signal to what the words stand for. -/
def sendSignals (signal : Nat) (words : List String) : Act Unit := do
  let mut status := 0
  for word in words do
    let found ← match word.toList with
      | '%' :: _ => do
        let _ ← jobNamed word
        pure false
      | '-' :: digits => do
        let _ ← numberArgument (String.ofList digits)
        pure false
      | _ => do sendSignal signal (← numberArgument word)
    if !found then
      warn "No such process\n"
      status := 1
  setStatus status

/-- Shows the names of signals. -/
def listSignals (words : List String) : Act Unit := do
  match words with
  | [] => say ("0\n" ++ String.join (Signal.names.map (· ++ "\n")))
  | word :: _ =>
    let number ← numberArgument word
    let signal := if number > 128 then number - 128 else number
    if 0 < signal ∧ signal ≤ Signal.largest then say (Signal.name signal ++ "\n")
    else giveUp ("invalid signal number or exit status: " ++ word)
  setStatus 0

/-- Sends signals, or shows their names. -/
def useSignals (args : List String) : Act Unit := do
  match args with
  | [] => giveUp killUsage
  | first :: rest =>
    let direct := if first.startsWith "-" then Signal.ofWord? (first.drop 1).toString else none
    match direct with
    | some signal => if rest.isEmpty then giveUp killUsage else sendSignals signal rest
    | none =>
      let (options, words) ← optionsOf [('l', false), ('s', true)] args
      let mut chosen := Signal.terminate
      for (letter, word) in options do
        if letter = 's' then
          match Signal.ofWord? word with
          | some signal => chosen := signal
          | none => giveUp ("invalid signal number or name: " ++ word)
      let isNamed := options.any (·.1 = 's')
      if options.any (·.1 = 'l') then
        if isNamed then giveUp killUsage else listSignals words
      else if words.isEmpty then giveUp killUsage
      else sendSignals chosen words

end CheckMatrix.Shell
