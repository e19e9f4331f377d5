/-
Carrying out scripts.

Expanding words and carrying out commands need each other, since a word may hold a script whose
output it stands for.  Each call carries a bound on the depth of the calls below it, and a loop goes
one call deeper with every round; the bound is out of reach of any script that ends.  Every script
that is carried out takes a turn of its process, so that others have theirs.

A script in parentheses, a part of a pipeline, a script whose output is wanted and one that is left
to go on by itself are carried out by a copy of the shell, which is a process of its own.
-/
import CheckMatrix.Machine.Lookup
import CheckMatrix.Machine.Schedule
import CheckMatrix.Shell.Attaching
import CheckMatrix.Shell.Beginning
import CheckMatrix.Shell.Builtins
import CheckMatrix.Shell.Sum
import CheckMatrix.Shell.Values

namespace CheckMatrix.Shell

/-! ### Small steps -/

/-- Has other processes take their turns. -/
def takeTurn : Act Unit :=
  onWorld (Doing.await .turn)

/-- A command without the words in front that ask for itself and not for a function of its name, and
whether there are some. -/
def State.uncovered (s : State) : (bound : Nat) → Bool → List String → List String × Bool
  | 0, isPlain, words => (words, isPlain)
  | bound + 1, isPlain, words =>
    match words with
    | "command" :: args =>
      if !isPlain && (s.functions.lookup "command").isSome then (words, isPlain)
      else
        match commandBehind? args with
        | some behind => s.uncovered bound true behind
        | none => (words, isPlain)
    | _ => (words, isPlain)

/-- What a command that was read so far is about, and whether functions do not count. -/
def State.commandOf (s : State) (words : List String) : List String × Bool :=
  s.uncovered words.length false words

/-- The arguments behind these words are taken for settings if they have their form. -/
def State.takesSettings (s : State) (words : List String) : Bool :=
  match s.commandOf words with
  | (name :: _, isPlain) =>
    settingNames.contains name && (isPlain || (s.functions.lookup name).isNone)
  | _ => false

/-- How a script stands among others: whether the next one asks about its failure, and whether none
is next, so that the process ends with it. -/
structure Standing where
  asked : Bool
  isLast : Bool
  deriving DecidableEq, Repr

/-- The standing of a script behind which more comes. -/
def Standing.amid (asked : Bool) : Standing :=
  ⟨asked, false⟩

/-- The shell may go over into what it ends with, since no action is left to it then. -/
def State.mayGoOver (s : State) (how : Standing) : Bool :=
  how.isLast && (caughtSignals s.traps).isEmpty && (s.traps.lookup 0).isNone

/-- Ends a careful shell if a command that was not asked about has failed. -/
def checkStatus (asked : Bool) : Act Unit := do
  let s ← get
  if s.isSet "errexit" ∧ !asked ∧ s.status ≠ 0 then throw .quit

/-- Acts for a command of the shell, which is named when something goes wrong. -/
def withinCommand {α : Type} (name : String) (act : Act α) : Act α := do
  let outer := (← get).within
  modify fun s => { s with within := some name }
  finally_ act (modify fun s => { s with within := outer })

/-- Says that what a command wanted to write could not be written, if so. -/
def noteUnwritten (name : String) : Act Unit := do
  let s ← get
  if (s.world.unwritten.lookup s.own).isSome then
    onWorld (modify fun w => { w with unwritten := w.unwritten.filter (·.1 ≠ s.own) })
    warn (name ++ ": I/O error")
    modify fun s => { s with status := if s.status % 2 = 0 then s.status + 1 else s.status }

/-- Acts with variables that are as before afterwards. -/
def withVariables {α : Type} (names : List String) (act : Act α) : Act α := do
  let before := (← get).vars
  finally_ act (modify fun s =>
    names.foldl (fun s name => s.restore name (before.find? (·.name = name))) s)

/-- Waits for the ends of processes, the parts of a pipeline, and takes over how they ended. -/
def awaitAll : List Nat → Act Unit
  | [] => pure ()
  | pid :: rest => do
    let exit_ ← awaitEnd pid
    noteExit exit_
    awaitAll rest

/-- Waits for the end of a process, a part of a job, or a signal that the shell acts upon.  The
answer is how the process has ended, if it has. -/
def awaitPart (pid : Nat) : Act (Option Exit) := do
  onWorld (Doing.await (.endingOrSignal pid))
  let s ← get
  match s.world.ending? pid with
  | some exit_ => return some exit_
  | none =>
    match s.world.posted.find? (·.1 = s.own) with
    | some (_, signal) => setStatus (128 + signal)
    | none => pure ()
    return none

/-- Waits for the end of a job or a signal that the shell acts upon.  The answer tells whether the
job has ended. -/
def awaitJob (job : Job) : Act Bool := do
  for (pid, ended) in job.parts do
    match ended with
    | some exit_ => setStatus exit_.status
    | none =>
      match ← awaitPart pid with
      | some exit_ => noteExit exit_
      | none => return false
  modify State.noticeJobs
  return true

/-- The file that a name stands for whose commands are to be carried out. -/
def sourcePath (name : String) : Act String := do
  let s ← get
  if name.toList.contains '/' then return name
  let paths := (searchPath s.searching).map fun dir =>
    if dir.isEmpty then name else dir ++ "/" ++ name
  match paths.find? fun path => s.world.tree.isFile (.ofPacked path) with
  | some path => return path
  | none => giveUp (name ++ ": not found")

/-- The text of a file; a directory has none. -/
def sourceText (path : String) : Act (List Char) := do
  match (← get).world.tree.readFile (.ofPacked path) with
  | .ok bytes => return (Text.ofBytes bytes).toList
  | .error .isDirectory => return []
  | .error e => giveUp (openFailure false path e)

/-- The number of loops that a command is about, of those around it. -/
def loopCount (args : List String) : Act Nat := do
  match args with
  | [] => return 1
  | arg :: _ =>
    let n ← numberArgument arg
    if n = 0 then giveUp ("Illegal number: " ++ arg) else return n

/-- Says that a program cannot be called, and why. -/
def refuseProgram (name : String) (e : FileError) : Act Unit := do
  let missing := e = .notFound ∨ e = .notDirectory
  warn (name ++ ": " ++ if missing then "not found" else e.words)
  let isUnknown := missing ∨ e = .tooManyLinks ∨ e = .nameTooLong ∨
    (e ≠ .tooManyArguments ∧ !name.toList.contains '/')
  setStatus (if isUnknown then 127 else 126)

/-- The most calls of functions that may be open at a time. -/
def maxCalls : Nat := 1000

/-- The text of a script as far as it was read. -/
def readBetween (before after : Cursor) : String :=
  String.ofList (before.written.take (before.written.length - after.written.length))

/-! ### Words and commands -/

mutual

/-- Expands a word into cells. -/
def expand : (depth : Nat) → Manner → Word → Act (List Cell)
  | 0, _, _ => exhausted
  | _ + 1, _, [] => return []
  | depth + 1, m, piece :: rest => do
    let first ← expandPiece depth m piece
    if piece.isFinal then return first else return first ++ (← expand depth m rest)

/-- Expands a word into a single text. -/
def expandText : (depth : Nat) → (inSetting : Bool) → Word → Act String
  | 0, _, _ => exhausted
  | depth + 1, inSetting, word => do
    return Cell.text (← expand depth .single (homed (← get) inSetting word))

/-- Expands a part of a word. -/
def expandPiece : (depth : Nat) → Manner → Piece → Act (List Cell)
  | 0, _, _ => exhausted
  | depth + 1, m, piece => do
    let s ← get
    match piece with
    | .text content quoted => return m.cells content quoted
    | .mark => return [.mark]
    | .parameter name form word quoted =>
      match form with
      | .instead action alsoEmpty => expandInstead depth m name action alsoEmpty word quoted
      | .wrong => giveUp "Bad substitution"
      | _ =>
        let text := s.textOf? name
        if text.isNone ∧ s.isSet "nounset" then giveUp (name ++ ": parameter not set")
        let text := text.getD ""
        match form with
        | .length => return Cell.ofValue (toString text.length) quoted
        | .trimmed atFront longest =>
          let marks := Cell.marks (← expand depth .single (homed s false word))
          let cut := if atFront then Pattern.cutFront marks longest
            else Pattern.cutBack marks longest
          return s.cellsOfCut m name quoted cut
        | .final => return s.cellsOf m name quoted ++ (← expand depth m word)
        | _ => return s.cellsOf m name quoted
    | .output .nothing quoted =>
      return Cell.ofValue "" quoted
    | .output body quoted =>
      modify State.withRoom
      let pipe ← newPipe
      let inner := State.withHandle s.handles 1 (some (.sink pipe))
      let pid ← startActing depth false inner (eval depth ⟨false, true⟩ body)
      modify fun s => { s with kept := .source pipe :: s.kept }.holding
      let bytes ← onWorld (Doing.drain (some (.source pipe)))
      modify fun after => { after with kept := s.kept }.holding
      let exit_ ← awaitEnd pid
      noteExit exit_
      modify fun after => { after with substituted := some exit_.status, status := s.status }
      let text := (withoutLastLines (bytes.toOption.getD [])).filter (· ≠ 0)
      return Cell.ofValue (Text.ofBytes text) quoted
    | .sum expression quoted =>
      let text := Cell.text (← expand depth .single expression)
      let about (reason : String) : String :=
        "arithmetic expression: " ++ reason ++ ": \"" ++ text ++ "\""
      let s ← get
      let (result, settings) := Sum.workOut (fun name => (s.held? name).getD "") text.toList
      for (name, value) in settings.reverse do
        assignVariable name value
      match result with
      | .ok n => return Cell.ofValue (toString n) quoted
      | .error (.lacking lack) => giveUp (about ("expecting " ++ lack.words))
      | .error .divisionByZero => giveUp (about "division by zero")
      | .error .overflow => throw (.killed Signal.floatingPoint)
      | .error (.illegalNumber held) => giveUp ("Illegal number: " ++ held)

/-- Expands a name behind which a word stands for the case that it has no value, or that it has. -/
def expandInstead : (depth : Nat) → Manner → (name : String) → (action : Char) →
    (alsoEmpty : Bool) → Word → (quoted : Bool) → Act (List Cell)
  | 0, _, _, _, _, _, _ => exhausted
  | depth + 1, m, name, action, alsoEmpty, word, quoted => do
    let s ← get
    let text := s.textOf? name
    let missing := text.isNone ∨ (alsoEmpty ∧ text = some "")
    let inside := { m with inBraces := !quoted }
    let word' := if quoted then word else homed s false word
    if action = '+' then
      if missing then return [] else expand depth inside word'
    else if !missing then return s.cellsOf m name quoted
    else if action = '-' then expand depth inside word'
    else
      let text := Cell.text (← expand depth .single word')
      if action = '=' then
        assignVariable name text
        return (← get).cellsOf m name quoted
      else if word.isEmpty then
        giveUp (name ++ ": parameter not set" ++ if alsoEmpty then " or null" else "")
      else giveUp (name ++ ": " ++ text)

/-- Expands words into fields, with paths in place of patterns; `fields` are those so far. -/
def expandWords : (depth : Nat) → (fields : List String) → List Word → Act (List String)
  | 0, _, _ => exhausted
  | _ + 1, fields, [] => return fields
  | depth + 1, fields, word :: rest => do
    let s ← get
    match if s.takesSettings fields then setting? word else none with
    | some (name, value) =>
      let text ← expandText depth true value
      expandWords depth (fields ++ [name ++ "=" ++ text]) rest
    | none =>
      let cells ← expand depth ⟨false, true⟩ (homed s false word)
      let s ← get
      let found := Cell.fields s.separators cells
      let found :=
        if s.isSet "noglob" then found.map Pattern.plainText
        else found.flatMap (Pattern.pathsIn s.world)
      expandWords depth (fields ++ found) rest

/-- Finds out what redirections are about. -/
def expandGoals : (depth : Nat) → List Redirection → Act (List Goal)
  | 0, _ => exhausted
  | _ + 1, [] => return []
  | depth + 1, first :: rest => do
    let goal ← match first with
      | .file number attachment target =>
        pure (Goal.file number attachment (← expandText depth false target))
      | .copy number source =>
        pure (Goal.copy number (← copySource (← expandText depth false source)))
      | .document number index => pure (Goal.document number index)
    return goal :: (← expandGoals depth rest)

/-- Carries out redirections.  The answer tells whether all of them succeeded. -/
def attachAll : (depth : Nat) → List Goal → Act Bool
  | 0, _ => exhausted
  | _ + 1, [] => return true
  | depth + 1, goal :: rest => do
    let done ← match goal with
      | .file number attachment path => attachFile number attachment path
      | .copy number source => attachCopy number source
      | .document number index =>
        try
          let word := ((← get).documents[index]?).getD []
          attachText number (Cell.text (← expand depth .single word))
          pure true
        catch
          | .fault => pure false
          | flow => throw flow
    if done then attachAll depth rest else return false

/-- Carries out a script, and then the actions for signals that have arrived.  A failure that is
asked about does not end a careful shell. -/
def eval : (depth : Nat) → Standing → Script → Act Unit
  | 0, _, _ => exhausted
  | depth + 1, how, script => do
    if !(← get).isSet "noexec" then
      takeTurn
      let isChecked ← evalNode depth how script
      takeTurn
      attend depth
      if isChecked then checkStatus how.asked

/-- Carries out a script.  The answer tells whether its failure ends a careful shell. -/
def evalNode : (depth : Nat) → Standing → Script → Act Bool
  | 0, _, _ => exhausted
  | depth + 1, how, script => do
    let asked := how.asked
    match script with
    | .nothing => return false
    | .simple line settings words redirections =>
      modify fun s => { s with line, substituted := none }
      evalSimple depth how settings words redirections
      return true
    | .redirected line body redirections =>
      modify fun s => { s with line }
      let goals ← expandGoals depth redirections
      withHandles do
        if ← attachAll depth goals then
          eval depth (.amid asked) body
          return false
        else
          setStatus 2
          return true
    | .pipeline negated parts =>
      match parts with
      | [only] => eval depth (.amid (asked || negated)) only
      | _ =>
        modify State.withRoom
        let input := (← get).handle? 0
        awaitAll (← startBars depth false (asked || negated) parts input)
      if negated then setStatus (if (← get).status = 0 then 1 else 0)
      return !negated
    | .both first second =>
      eval depth (.amid true) first
      if (← get).status = 0 then eval depth how second
      return false
    | .either first second =>
      eval depth (.amid true) first
      if (← get).status ≠ 0 then eval depth how second
      return false
    | .sequence first second =>
      eval depth (.amid asked) first
      eval depth how second
      return false
    | .background body =>
      leaveBehind depth asked body
      return true
    | .subshell body =>
      let s ← get
      if s.mayGoOver how then eval depth how body
      else
        modify State.withRoom
        let exit_ ← awaitEnd (← startActing depth false s.handles (eval depth ⟨asked, true⟩ body))
        noteExit exit_
      return true
    | .branch condition body otherwise =>
      eval depth (.amid true) condition
      if (← get).status = 0 then eval depth how body
      else
        match otherwise with
        | .nothing => setStatus 0
        | _ => eval depth how otherwise
      return false
    | .loop untilTrue condition body =>
      evalLoop depth asked untilTrue condition body 0
      return false
    | .each line name words body =>
      modify fun s => { s with line }
      let values ← match words with
        | some words => expandWords depth [] words
        | none => pure (← get).args
      if values.isEmpty then setStatus 0 else evalEach depth asked name values body
      return false
    | .choice line subject cases =>
      modify fun s => { s with line }
      let text ← expandText depth false subject
      evalCases depth how text cases
      return false
    | .define name body =>
      modify fun s =>
        { s with functions := (name, body) :: s.functions.filter (·.1 ≠ name), status := 0 }
      return false

/-- Has a copy of the shell act with its own handles and end then; one that is left to go on by
itself is not interrupted.  The answer is the number of its process. -/
def startActing : (depth : Nat) → (behind : Bool) → List (Nat × Handle) → Act Unit → Act Nat
  | 0, _, _, _ => exhausted
  | depth + 1, behind, handles, act => do
    let own ← newPid
    let copy := (← get).copied own handles
    let spared := if behind then [Signal.interrupt, Signal.quit] else []
    startCopy { copy with ignored := copy.ignored ++ spared } do
      finish depth (← act.result)
    return own

/-- Leaves a script to go on by itself, without input.  The parts of a pipeline go on one by one,
and what a redirection is about is found out before, unless the script has a copy to itself. -/
def leaveBehind : (depth : Nat) → (asked : Bool) → Script → Act Unit
  | 0, _, _ => exhausted
  | depth + 1, asked, body => do
    let leave (act : Act Unit) : Act (List Nat) := do
      let handles := State.withHandle (← get).handles 0 (some .nowhere)
      return [← startActing depth true handles act]
    let pids ← match body with
      | .pipeline false parts => startBars depth true asked parts (some .nowhere)
      | .redirected _ (.subshell _) _ => leave (eval depth ⟨false, true⟩ body)
      | .redirected line inner redirections =>
        modify fun s => { s with line }
        let goals ← expandGoals depth redirections
        leave do
          if ← attachAll depth goals then eval depth ⟨false, true⟩ inner else setStatus 2
      | _ => leave (eval depth ⟨false, true⟩ body)
    modify fun s => { s.withJob pids with status := 0 }

/-- Carries out the body of a loop.  The answer tells whether the loop goes on. -/
def evalBody : (depth : Nat) → (asked : Bool) → Script → Act Bool
  | 0, _, _ => exhausted
  | depth + 1, asked, body => do
    let outer := (← get).loops
    let leaveLoop : Act Unit := modify fun s => { s with loops := outer }
    modify fun s => { s with loops := outer + 1 }
    try
      eval depth (.amid asked) body
      leaveLoop
      return true
    catch flow =>
      leaveLoop
      match flow with
      | .leave loops => if loops > 1 then throw (.leave (loops - 1)) else return false
      | .again loops => if loops > 1 then throw (.again (loops - 1)) else return true
      | _ => throw flow

/-- Carries out a loop; `status` is that of the last round. -/
def evalLoop :
    (depth : Nat) → (asked untilTrue : Bool) → Script → Script → (status : Nat) → Act Unit
  | 0, _, _, _, _, _ => exhausted
  | depth + 1, asked, untilTrue, condition, body, status => do
    if ← evalBody depth true condition then
      if ((← get).status = 0) = untilTrue then setStatus status
      else if ← evalBody depth asked body then
        evalLoop depth asked untilTrue condition body (← get).status

/-- Carries out a loop over values. -/
def evalEach : (depth : Nat) → (asked : Bool) → (name : String) → List String → Script → Act Unit
  | 0, _, _, _, _ => exhausted
  | _ + 1, _, _, [], _ => pure ()
  | depth + 1, asked, name, value :: rest, body => do
    assignVariable name value
    if ← evalBody depth asked body then evalEach depth asked name rest body

/-- Carries out the first case of a choice that fits. -/
def evalCases : (depth : Nat) → Standing → String → List (List Word × Script) → Act Unit
  | 0, _, _, _ => exhausted
  | _ + 1, _, _, [] => setStatus 0
  | depth + 1, how, text, (patterns, body) :: rest => do
    if ← fitsAny depth text patterns then
      match body with
      | .nothing => setStatus 0
      | _ => eval depth how body
    else evalCases depth how text rest

/-- Whether one of several patterns fits a text. -/
def fitsAny : (depth : Nat) → String → List Word → Act Bool
  | 0, _, _ => exhausted
  | _ + 1, _, [] => return false
  | depth + 1, text, pattern :: rest => do
    let marks := Cell.marks (← expand depth .single (homed (← get) false pattern))
    if Pattern.fits marks text then return true else fitsAny depth text rest

/-- Has copies of the shell carry out the parts of a pipeline, each with the output of the one
before as its input.  The answer are the numbers of their processes. -/
def startBars : (depth : Nat) → (behind asked : Bool) → List Script → (input : Option Handle) →
    Act (List Nat)
  | 0, _, _, _, _ => exhausted
  | _ + 1, _, _, [], _ => return []
  | depth + 1, behind, asked, part :: rest, input => do
    let handles := State.withHandle (← get).handles 0 input
    let act := eval depth ⟨asked, true⟩ part
    if rest.isEmpty then return [← startActing depth behind handles act]
    else
      let pipe ← newPipe
      let inner := State.withHandle handles 1 (some (.sink pipe))
      let pid ← startActing depth behind inner act
      return pid :: (← startBars depth behind asked rest (some (.source pipe)))

/-- Carries out a simple command: first its words are expanded, then redirections are carried out
and variables are set, and then comes the command itself. -/
def evalSimple : (depth : Nat) → Standing → List (String × Word) → List Word →
    List Redirection → Act Unit
  | 0, _, _, _, _ => exhausted
  | depth + 1, how, settings, words, redirections => do
    let fields ← expandWords depth [] words
    let goals ← expandGoals depth redirections
    let s ← get
    let (command, isPlain) := s.commandOf fields
    let isBuilt := fun name => isBuiltin name && (isPlain || (s.functions.lookup name).isNone)
    let isSpecial := (fields.head?.map specialNames.contains).getD false
    let isLasting := command.head? = some "exec"
    let act : Act Unit := do
      if !(← attachAll depth goals) then
        setStatus 2
        if isSpecial then throw .fault
      else
        let local_ := !fields.isEmpty && !isSpecial
        withVariables (if local_ then settings.map Prod.fst else []) do
          let exports := local_ || (isLasting && command.length > 1)
          let shown ← assignAll depth exports settings
          if s.isSet "xtrace" then
            let mark ← traceMark depth
            writeTo (s.handle? 2) (mark ++ " ".intercalate (shown ++ fields) ++ "\n")
          match command with
          | [] => setStatus ((← get).substituted.getD 0)
          | name :: args =>
            if isBuilt name then
              try
                evalBuiltin depth how.asked name args
              catch flow =>
                match flow with
                | .fault => if isSpecial then throw .fault
                | _ => throw flow
            else
              match if isPlain then none else s.functions.lookup name with
              | some body => evalFunction depth how.asked body args
              | none =>
                if (← get).mayGoOver how then replaceWith depth name args
                else callProgram depth name args
    if isLasting || goals.isEmpty then act else withHandles act

/-- Sets variables, which other programs see if `exports` says so.  The answer is how they are shown
when commands are. -/
def assignAll : (depth : Nat) → (exports : Bool) → List (String × Word) → Act (List String)
  | 0, _, _ => exhausted
  | _ + 1, _, [] => return []
  | depth + 1, exports, (name, word) :: rest => do
    let value ← expandText depth true word
    if exports then assignExported name value else assignVariable name value
    return (name ++ "=" ++ value) :: (← assignAll depth exports rest)

/-- What stands in front of a command that is shown. -/
def traceMark : (depth : Nat) → Act String
  | 0 => exhausted
  | depth + 1 => do
    let s ← get
    let text := (s.held? "PS4").getD ""
    match documentWord? text with
    | some word =>
      let isTracing := s.options.filter (· ≠ "xtrace")
      set { s with options := isTracing }
      let mark ← expand depth .single word
      modify fun after => { after with options := s.options }
      return Cell.text mark
    | none => return text

/-- Carries out a function with its own arguments, variables and perhaps options. -/
def evalFunction : (depth : Nat) → (asked : Bool) → Script → List String → Act Unit
  | 0, _, _, _ => exhausted
  | depth + 1, asked, body, args => do
    let outer ← get
    if outer.calls = maxCalls then
      giveUp ("Maximum function recursion depth (" ++ toString maxCalls ++ ") reached")
    set { outer.rewound with
      args, locals := some [], localOptions := none, loops := 0, calls := outer.calls + 1 }
    finally_
      (try
        eval depth (.amid asked) body
      catch
        | .back => pure ()
        | flow => throw flow)
      (modify fun s =>
        let s := (s.locals.getD []).foldl (fun s entry => s.restore entry.1 entry.2) s
        { s with args := outer.args, locals := outer.locals, localOptions := outer.localOptions,
                 options := s.localOptions.getD s.options, loops := outer.loops,
                 calls := outer.calls, argument := outer.argument, letter := outer.letter })

/-- Carries out a command that the shell knows itself. -/
def evalBuiltin : (depth : Nat) → (asked : Bool) → (name : String) → List String → Act Unit
  | 0, _, _, _ => exhausted
  | depth + 1, asked, name, args =>
    withinCommand name do
      match builtinTable.lookup name with
      | some act => act args
      | none => evalControl depth asked name args
      noteUnwritten name

/-- Carries out a command of the shell that steers what is carried out. -/
def evalControl : (depth : Nat) → (asked : Bool) → (name : String) → List String → Act Unit
  | 0, _, _, _ => exhausted
  | depth + 1, asked, name, args => do
    let s ← get
    match name with
    | "exit" =>
      match args with
      | [] => pure ()
      | arg :: _ =>
        let status ← numberArgument arg
        modify fun s => { s with saved := some status }
      throw .exit
    | "return" =>
      match args with
      | [] => pure ()
      | arg :: _ => setStatus (← numberArgument arg)
      checkStatus asked
      throw .back
    | "break" =>
      let count ← loopCount args
      setStatus 0
      if s.loops > 0 then throw (.leave (min count s.loops))
    | "continue" =>
      let count ← loopCount args
      setStatus 0
      if s.loops > 0 then throw (.again (min count s.loops))
    | "eval" =>
      let text := (" ".intercalate args).toList
      if !(← evalText depth asked false (.start text 1 [] [])) then setStatus 0
    | "." =>
      let (_, words) ← optionsOf [] args
      match words with
      | [] => setStatus 0
      | word :: _ =>
        let path ← sourcePath word
        let text ← sourceText path
        try
          if !(← withinCommand path (evalText depth false true (.start text 1 [] []))) then
            setStatus 0
        catch
          | .back => pure ()
          | flow => throw flow
    | "exec" =>
      match args with
      | [] => setStatus 0
      | program :: rest => replaceWith depth program rest
    | "type" => describeNames args
    | "wait" =>
      let (_, words) ← optionsOf [] args
      if words.isEmpty then
        setStatus 0
        waitForAll depth
      else
        setStatus 127
        waitFor depth words
    | _ => describeCommand args

/-- Waits for jobs that words name. -/
def waitFor : (depth : Nat) → List String → Act Unit
  | 0, _ => exhausted
  | _ + 1, [] => pure ()
  | depth + 1, word :: rest => do
    let job ← if word.startsWith "%" then some <$> jobNamed word
      else do
        let pid ← numberArgument word
        pure ((← get).jobs.find? (·.pid = pid))
    match job with
    | none => waitFor depth rest
    | some job =>
      if ← awaitJob job then
        modify (State.settleJob · job.place)
        waitFor depth rest

/-- Waits for all jobs. -/
def waitForAll : (depth : Nat) → Act Unit
  | 0 => exhausted
  | depth + 1 => do
    modify State.noticeJobs
    let jobs := (← get).jobs
    for job in jobs.takeWhile Job.isOver do
      modify (State.settleJob · job.place)
    match jobs.flatMap Job.running with
    | [] => pure ()
    | pid :: _ => if (← awaitPart pid).isSome then waitForAll depth

/-- Calls a program and waits for it. -/
def callProgram : (depth : Nat) → (name : String) → List String → Act Unit
  | 0, _, _ => exhausted
  | depth + 1, name, args => do
    match (← get).program name with
    | .ok program =>
      remember name
      let pid ← newPid
      let call := (← get).call pid name args
      modify State.withRoom
      if call.isTooLong then refuseProgram name .tooManyArguments
      else
        startCall call (startProgram depth program call)
        let exit_ ← awaitEnd pid
        noteExit exit_
    | .error e =>
      if name.toList.contains '/' then modify State.withRoom
      refuseProgram name e

/-- Has a program go on in place of the shell. -/
def replaceWith : (depth : Nat) → (name : String) → List String → Act Unit
  | 0, _, _ => exhausted
  | depth + 1, name, args => do
    let s ← get
    match s.program name with
    | .ok program =>
      let call := { s.call s.own name args with caller := s.parent }
      if call.isTooLong then
        refuseProgram name .tooManyArguments
        throw .quit
      modify fun s => ({ s with kept := [] }.withTraps (s.traps.filter (·.2.isEmpty))).holding
      let exit_ ← onWorld (startProgram depth program call)
      onWorld (Doing.endAs exit_)
    | .error e =>
      refuseProgram name e
      throw .quit

/-- Carries out the actions for the signals that have arrived. -/
def attend : (depth : Nat) → Act Unit
  | 0 => exhausted
  | depth + 1 => do
    let s ← get
    let (mine, others) := s.world.posted.partition (·.1 = s.own)
    if !mine.isEmpty then
      set { s with world := { s.world with posted := others } }
      react depth ((mine.map Prod.snd).eraseDups.mergeSort)

/-- Carries out the actions for signals.  The status is as before afterwards. -/
def react : (depth : Nat) → List Nat → Act Unit
  | 0, _ => exhausted
  | _ + 1, [] => pure ()
  | depth + 1, signal :: rest => do
    let s ← get
    match s.traps.lookup signal with
    | none => pure ()
    | some text =>
      set { s with saved := s.saved.or (some s.status) }
      let _ ← evalText depth false false (.start text.toList 1 [] [])
      modify fun after => { after with status := s.status, saved := s.saved }
    react depth rest

/-- Carries out what a text says, line by line; `echoes` tells that its lines are shown on request.
The answer tells whether there was anything. -/
def evalText : (depth : Nat) → (asked echoes : Bool) → Cursor → Act Bool
  | 0, _, _, _ => exhausted
  | depth + 1, asked, echoes, cursor => do
    let s ← get
    match nextLine.run { cursor with documents := s.documents, aliases := s.aliases } with
    | .error refusal =>
      modify fun s => { s with line := refusal.line }
      giveUp refusal.fault.message
    | .ok (script, after) =>
      set { s with documents := after.documents }
      if echoes ∧ s.isSet "verbose" then writeTo (s.handle? 2) (readBetween cursor after)
      match script with
      | none => return false
      | some script =>
        eval depth (.amid asked) script
        let _ ← evalText depth asked echoes after
        return true

/-- Ends a shell: carries out what it was told to do in the end. -/
def finish : (depth : Nat) → Except Flow Unit → Act Exit
  | 0, _ => return .killed 9
  | depth + 1, result => do
    let s ← get
    let status := match result with
      | .error .exit => s.saved.getD s.status
      | _ => s.status
    match result, s.traps.lookup 0 with
    | .error (.killed signal), _ => return .killed signal
    | _, none => return .exited (status % 256)
    | _, some action =>
      set { s with traps := s.traps.filter (·.1 ≠ 0), status, saved := some status, loops := 0 }
      let ending ← (evalText depth false false (.start action.toList 1 [] [])).result
      let after ← get
      return match ending with
        | .error .exit => .exited (after.saved.getD after.status % 256)
        | .error .quit => .exited (after.status % 256)
        | .error .fault => .exited (after.status % 256)
        | .error (.killed signal) => .killed signal
        | _ => .exited (status % 256)

/-- Runs a shell. -/
def runShell : (depth : Nat) → Call → Doing Exit
  | 0, _ => return .killed 9
  | depth + 1, call => do
    let refused (reason : String) : Doing Exit := do
      call.complain (call.name ++ ": 0: " ++ reason)
      return .exited 2
    let runAs (echoes : Bool) (name : String) (args options : List String) (text : String) :
        Doing Exit := do
      let act : Act Exit := do
        let result ← (evalText depth false echoes (.start text.toList 1 [] [])).result
        finish depth (result.map fun _ => ())
      let state := State.start call name args options (← get)
      fun w go => act { state with world := w } fun result after =>
        go (result.toOption.getD (.exited 2)) after.world
    match sourceOf call.name call.args with
    | .error reason => refused reason
    | .ok (.text text name args, options) => runAs false name args options text
    | .ok (.file path args, options) =>
      match (← get).tree.readFile (.ofPacked path) with
      | .ok bytes => runAs true path args options (Text.ofBytes bytes)
      | .error .isDirectory => return .exited 0
      | .error e => refused (openFailure false path e)
    | .ok (.input args, options) =>
      let bytes ← Doing.drain (call.handle? 0)
      runAs true call.name args options (Text.ofBytes (bytes.toOption.getD []))

/-- Runs a program. -/
def startProgram : (depth : Nat) → (program : String) → Call → Doing Exit
  | 0, _, _ => return .killed 9
  | depth + 1, program, call => do
    if shellNames.contains program then runShell depth call
    else
      match Tool.table.lookup program with
      | none => return .exited 127
      | some tool =>
        let code ← tool call
        match (← get).unwritten.lookup call.pid with
        | none => return .exited code
        | some cause =>
          call.blame ("write error: " ++ cause.words)
          return .exited 1

end

/-- Runs a program up to its end. -/
def run (program : String) (call : Call) (w : World) : World × Exit :=
  let w := w.enrol ⟨call.pid, call.handles.map Prod.snd, [], call.ignored, none⟩
  runToEnd call.pid (fun w => startProgram Doing.endless program call w .ended) w

end CheckMatrix.Shell
