/-
What a shell remembers.

A shell has a name, arguments, variables and functions, options, the status of the last command,
and handles by number.  All of this is its memory, which a copy of the shell begins with and takes
away again; the world around it is shared.  Acting on the state may be broken off: out of a loop,
out of a function, because of a failure, or because a signal ends the shell.
-/
import CheckMatrix.Machine.Call
import CheckMatrix.Shell.Options
import CheckMatrix.Shell.Script

namespace CheckMatrix.Shell

/-- A variable of a shell.  One that is locked keeps its value; one without a value is only known by
its name. -/
structure Variable where
  name : String
  value : Option String
  exported : Bool
  locked : Bool
  deriving DecidableEq, Repr

/-- What a shell remembers.  `origin` is the number that the shell goes by, `own` that of the
process at work, which differs in a copy.  `saved` is the status that the shell ends with when the
action for a signal ends it without naming one, `substituted` that of the last script whose output
stands in the command at hand.  `kept` are handles that come back when redirections end.  `within`
is the command that the shell carries out itself, `loops` the number of loops around it and `calls`
that of functions.  `locals` are the variables that the function at work took for itself, as they
were before, and `localOptions` are the options, if it took them too.  `argument` counts the
arguments that were looked at for options, and `letter` the characters of the last one. -/
structure Memory where
  name : String
  args : List String
  vars : List Variable
  functions : List (String × Script)
  aliases : List (String × String)
  traps : List (Nat × String)
  ignored : List Nat
  options : List String
  remembered : List (String × String)
  documents : List Word
  status : Nat
  saved : Option Nat
  substituted : Option Nat
  origin : Nat
  own : Nat
  parent : Nat
  lastJob : Option Nat
  handles : List (Nat × Handle)
  kept : List Handle
  here : String
  mask : Nat
  argument : Nat
  letter : Option Nat
  line : Nat
  within : Option String
  loops : Nat
  calls : Nat
  locals : Option (List (String × Option Variable))
  localOptions : Option (List String)

/-- A script that a shell has left to go on by itself: its place among them, the processes that are
parts of it, each with how it ended as far as the shell knows, and whether somebody has waited for
all of that. -/
structure Job where
  place : Nat
  parts : List (Nat × Option Exit)
  waited : Bool
  deriving DecidableEq, Repr

/-- The state of a shell.  The job that was begun last comes first. -/
structure State extends Memory where
  jobs : List Job
  world : World

/-- Why acting is broken off: a loop is left or goes on with its next round, a function or a file is
left, something went wrong, a careful shell ends or another program goes on in its place, the shell
is told to end, or a signal ends it. -/
inductive Flow
  | leave (loops : Nat)
  | again (loops : Nat)
  | back
  | fault
  | quit
  | exit
  | killed (signal : Nat)
  deriving DecidableEq, Repr

/-- Acting on the state of a shell, which may be broken off or have to wait. -/
def Act (α : Type) : Type :=
  State → (Except Flow α → State → Activity) → Activity

namespace Act

instance : Monad Act where
  pure a := fun s go => go (.ok a) s
  bind act next := fun s go => act s fun
    | .ok a, s => next a s go
    | .error flow, s => go (.error flow) s

instance : MonadStateOf State Act where
  get := fun s go => go (.ok s) s
  set s := fun _ go => go (.ok ⟨⟩) s
  modifyGet change := fun s go =>
    let (a, s) := change s
    go (.ok a) s

instance : MonadExceptOf Flow Act where
  throw flow := fun s go => go (.error flow) s
  tryCatch act handle := fun s go => act s fun
    | .ok a, s => go (.ok a) s
    | .error flow, s => handle flow s go

/-- Acts with a result that tells whether acting was broken off. -/
def result {α : Type} (act : Act α) : Act (Except Flow α) :=
  fun s go => act s fun result s => go (.ok result) s

end Act

/-! ### Names -/

/-- The characters that a name begins with. -/
def isNameStart (c : Char) : Bool :=
  c.isAlpha || c = '_'

/-- The characters that a name is made of. -/
def isNameChar (c : Char) : Bool :=
  c.isAlphanum || c = '_'

/-- A text that can be the name of a variable. -/
def isName (text : String) : Bool :=
  (text.toList.head?.map isNameStart).getD false && text.toList.all isNameChar

/-- Cuts a setting at its equals sign. -/
def cutSetting (arg : String) : String × Option String :=
  let chars := arg.toList
  let name := chars.takeWhile (· ≠ '=')
  (String.ofList name,
    if name.length < chars.length then some (String.ofList (chars.drop (name.length + 1)))
    else none)

/-- The largest number that a text stands for when it counts something. -/
def largestCount : Int := 2147483647

/-- The number that a text stands for when it counts something: decimal, with blanks around it and
perhaps a sign. -/
def countOf? (text : String) : Option Nat :=
  match Text.intOf? (Text.withoutBlanks text.toList) with
  | some n => if 0 ≤ n ∧ n ≤ largestCount then some n.toNat else none
  | none => none

/-- The variable that counts the arguments that were looked at for options. -/
def indexName : String := "OPTIND"

/-! ### Variables -/

namespace State

/-- A variable. -/
def variableNamed? (s : State) (name : String) : Option Variable :=
  s.vars.find? (·.name = name)

/-- The value of a variable. -/
def held? (s : State) (name : String) : Option String :=
  (s.variableNamed? name).bind Variable.value

/-- An option is set. -/
def isSet (s : State) (option : String) : Bool :=
  s.options.contains option

/-- The argument with a number, which is a word of thirty-two bits. -/
def argument? (s : State) (number : Nat) : Option String :=
  let position := Int.bmod (min number (Nat.pow 2 63 - 1)) (Nat.pow 2 32)
  if position < 0 then none
  else if position = 0 then some s.name
  else s.args[position.toNat - 1]?

/-- The value of a name behind a dollar sign. -/
def value? (s : State) (name : String) : Option String :=
  match name with
  | "?" => some (toString s.status)
  | "$" => some (toString s.origin)
  | "#" => some (toString s.args.length)
  | "0" => some s.name
  | "-" => some (optionLetters s.options)
  | "!" => s.lastJob.map fun pid => toString pid
  | _ =>
    match name.toList.head? with
    | some c =>
      if c.isDigit then s.argument? (Text.valueOf 10 name.toList)
      else s.held? name
    | none => none

/-- The state with a variable in place of the one of the same name, or behind all others. -/
def setVariable (s : State) (v : Variable) : State :=
  let isKnown := s.vars.any (·.name = v.name)
  { s with vars :=
      if isKnown then s.vars.map fun old => if old.name = v.name then v else old
      else s.vars ++ [v] }

/-- The state with another value of a variable.  Where programs are looked for is looked up anew
when it changes. -/
def assign (s : State) (name value : String) : State :=
  let old := (s.variableNamed? name).getD ⟨name, none, false, false⟩
  let exported := old.exported || s.isSet "allexport"
  let s := s.setVariable { old with value := some value, exported }
  if name = "PATH" then { s with remembered := [] } else s

/-- The state without a variable. -/
def unset (s : State) (name : String) : State :=
  { s with vars := s.vars.filter (·.name ≠ name) }

/-- The state with a variable as it was before. -/
def restore (s : State) (name : String) (before : Option Variable) : State :=
  match before with
  | some v =>
    let s := s.setVariable v
    match if name = indexName then v.value.bind countOf? else none with
    | some n => { s with argument := max 1 n, letter := none }
    | none => s
  | none => s.unset name

/-- The number of the bucket in which a name is kept, out of so many. -/
def bucket (size : Nat) (name : String) : Nat :=
  match Text.bytesOf name with
  | [] => 0
  | first :: rest => ((first :: rest).foldl (fun n b => n + b.toNat) (first.toNat * 16)) % size

/-- The variables that the programs that are called see, bucket by bucket. -/
def environment (s : State) : List (String × String) :=
  let exported := s.vars.filterMap fun v =>
    if v.exported then v.value.map fun value => (v.name, value) else none
  exported.mergeSort fun a b => bucket 39 a.1 ≤ bucket 39 b.1

/-- The characters that separate fields. -/
def separators (s : State) : List Char :=
  ((s.held? "IFS").getD " \t\n").toList

/-- What stands between several values that become one text. -/
def joint (s : State) : String :=
  match s.held? "IFS" with
  | some separators => String.ofList (separators.toList.take 1)
  | none => " "

/-! ### Handles -/

/-- The handle with a number. -/
def handle? (s : State) (number : Nat) : Option Handle :=
  s.handles.lookup number

/-- The state in a world that knows which handles the shell holds. -/
def holding (s : State) : State :=
  { s with world := s.world.changeProcess s.own fun m =>
      { m with held := s.handles.map Prod.snd ++ s.kept } }

/-- The handles with another one under a number, or none. -/
def withHandle (handles : List (Nat × Handle)) (number : Nat) (h : Option Handle) :
    List (Nat × Handle) :=
  (h.map fun h => (number, h)).toList ++ handles.filter (·.1 ≠ number)

/-- The state with a handle under a number, or none. -/
def attach (s : State) (number : Nat) (h : Option Handle) : State :=
  { s with handles := withHandle s.handles number h }.holding

/-- The call of a process that a shell makes of a name and arguments. -/
def call (s : State) (pid : Nat) (name : String) (args : List String) : Call :=
  { name, pid, caller := s.own, args, env := s.environment, handles := s.handles,
    ignored := s.ignored ++ (s.traps.filter (·.2.isEmpty)).map Prod.fst }

end State

/-! ### Acting -/

/-- Sets the status of the last command. -/
def setStatus (status : Nat) : Act Unit :=
  modify fun s => { s with status }

/-- Does something in the world. -/
def onWorld {α : Type} (doing : Doing α) : Act α :=
  fun s go => doing s.world fun a world => go (.ok a) { s with world }

/-- Writes a text to a handle; nobody is told if that is not possible. -/
def writeTo (h : Option Handle) (text : String) : Act Unit := do
  onWorld (Doing.write (← get).own false h (Text.bytesOf text))

/-- Shows a text on the standard output. -/
def say (text : String) : Act Unit := do
  let s ← get
  onWorld (Doing.write s.own true (s.handle? 1) (Text.bytesOf text))

/-- Shows a line on the standard error output. -/
def complain (text : String) : Act Unit := do
  writeTo ((← get).handle? 2) (text ++ "\n")

/-- What a message of the shell begins with: its name, the line, and the command that the shell
carries out itself. -/
def State.label (s : State) : String :=
  s.name ++ ": " ++ toString s.line ++ ": " ++ ((s.within.map (· ++ ": ")).getD "")

/-- Says what went wrong in what is carried out. -/
def warn (text : String) : Act Unit := do
  complain ((← get).label ++ text)

/-- Says what went wrong in what is carried out and gives it up. -/
def giveUp {α : Type} (text : String) : Act α := do
  warn text
  setStatus 2
  throw .fault

/-- Gives up a script that does not end. -/
def exhausted {α : Type} : Act α := do
  throw (.killed 9)

/-- Acts, and does something more however it ends. -/
def finally_ {α : Type} (act : Act α) (more : Act Unit) : Act α := do
  try
    let result ← act
    more
    return result
  catch flow =>
    more
    throw flow

/-- Acts with handles that may change and come back afterwards. -/
def withHandles {α : Type} (act : Act α) : Act α := do
  let before ← get
  modify fun s => { s with kept := before.handles.map Prod.snd ++ s.kept }
  finally_ act (modify fun s =>
    State.holding { s with handles := before.handles, kept := before.kept })

/-- Looks at arguments for options anew when their count is set to a number. -/
def setIndex (value : String) : Act Unit := do
  match countOf? value with
  | some n => modify fun s => { s with argument := max 1 n, letter := none }
  | none => giveUp ("Illegal number: " ++ value)

/-- Sets a variable, unless it is locked or the name is none. -/
def assignVariable (name value : String) : Act Unit := do
  let s ← get
  if !isName name then giveUp (name ++ ": bad variable name")
  else if ((s.variableNamed? name).map Variable.locked).getD false then
    giveUp (name ++ ": is read only")
  else
    if name = indexName then setIndex value
    modify fun s => s.assign name value

/-- Takes over how a program ended, and says so if a signal did it. -/
def noteExit (exit_ : Exit) : Act Unit := do
  match exit_ with
  | .exited _ => pure ()
  | .killed signal =>
    match Signal.epitaph? signal with
    | some text => complain text
    | none => pure ()
  setStatus exit_.status

/-- The reading end of options and arguments begins anew. -/
def State.rewound (s : State) : State :=
  { s with argument := 1, letter := none }

end CheckMatrix.Shell
