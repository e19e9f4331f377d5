/-
Commands that change what a shell remembers.

Variables are shown to other programs, locked, taken for a function or forgotten; arguments are set,
dropped or looked through for options; aliases and other small things are kept.  What is shown is
written so that a shell could read it again.
-/
import CheckMatrix.Machine.Lookup
import CheckMatrix.Shell.Fields
import CheckMatrix.Shell.State

namespace CheckMatrix.Shell

/-! ### Showing -/

/-- A text in quotes from where it is read on; `open_` is the quote that is open. -/
def quotedFrom (open_ : Char) : List Char → List Char
  | [] => [open_]
  | c :: rest =>
    if (c = '\'') = (open_ = '"') then c :: quotedFrom open_ rest
    else
      let other := if open_ = '"' then '\'' else '"'
      open_ :: other :: c :: quotedFrom other rest

/-- A text in single quotes; the single quotes in it stand between double quotes. -/
def shellQuoted (text : String) : String :=
  String.ofList ('\'' :: quotedFrom '\'' text.toList)

/-- A variable as it could be set. -/
def Variable.shown (v : Variable) : String :=
  match v.value with
  | some value => v.name ++ "=" ++ shellQuoted value
  | none => v.name

/-- Shows variables in order, each behind a text. -/
def showVariables (before : String) (variables_ : List Variable) : Act Unit :=
  say (String.join ((variables_.mergeSort fun a b => a.name ≤ b.name).map fun v =>
    before ++ v.shown ++ "\n"))

/-! ### Options and numbers -/

/-- The options of a command and what is left behind them. -/
def optionsOf (known : List (Char × Bool)) (args : List String) :
    Act (List (Char × String) × List String) := do
  match commandOptions known args with
  | .ok read => return read
  | .error fault => giveUp fault

/-- The number that an argument stands for; anything else is given up. -/
def numberArgument (arg : String) : Act Nat := do
  match countOf? arg with
  | some n => return n
  | none => giveUp ("Illegal number: " ++ arg)

/-! ### Variables -/

/-- Has variables shown to other programs, or locks them; shows those that are. -/
def mark (locking : Bool) (args : List String) : Act Unit := do
  let (options, names) ← optionsOf [('p', false)] args
  let flagged (v : Variable) : Variable :=
    if locking then { v with locked := true } else { v with exported := true }
  if !options.isEmpty ∨ names.isEmpty then
    let chosen := (← get).vars.filter fun v => flagged v = v
    showVariables (if locking then "readonly " else "export ") chosen
  else
    for arg in names do
      let (name, value) := cutSetting arg
      match value with
      | some value => assignVariable name value
      | none =>
        if ((← get).variableNamed? name).isNone then
          if isName name then modify fun s => s.setVariable ⟨name, none, false, false⟩
          else giveUp (name ++ ": bad variable name")
      modify fun s =>
        { s with vars := s.vars.map fun v => if v.name = name then flagged v else v }
  setStatus 0

/-- Takes variables for a function; they are as before when it ends. -/
def takeLocals (args : List String) : Act Unit := do
  for arg in args do
    match (← get).locals with
    | none => giveUp "not in a function"
    | some locals =>
      if arg = "-" then
        modify fun s => { s with localOptions := s.localOptions.or (some s.options) }
        continue
      let (name, value) := cutSetting arg
      modify fun s => { s with locals := some ((name, s.variableNamed? name) :: locals) }
      match value with
      | some value => assignVariable name value
      | none => if !isName name then giveUp (name ++ ": bad variable name")
  if args.isEmpty ∧ (← get).locals.isNone then giveUp "not in a function"
  setStatus 0

/-- Forgets variables or functions. -/
def forget (args : List String) : Act Unit := do
  let (options, names) ← optionsOf [('v', false), ('f', false)] args
  for name in names do
    if (options.getLast?.map Prod.fst) = some 'f' then
      modify fun s => { s with functions := s.functions.filter (·.1 ≠ name) }
    else if !isName name then giveUp (name ++ ": bad variable name")
    else if (((← get).variableNamed? name).map Variable.locked).getD false then
      giveUp (name ++ ": is read only")
    else if name = indexName then giveUp "Illegal number: "
    else modify fun s => s.unset name
  setStatus 0

/-! ### Options and arguments -/

/-- Sets options and arguments, or shows the variables or the options. -/
def setOptions (args : List String) : Act Unit := do
  let s ← get
  if args.isEmpty then showVariables "" (s.vars.filter fun v => v.value.isSome)
  else
    match readOptions false s.options args with
    | .error fault => giveUp fault
    | .ok read =>
      match read.report with
      | some true => say (optionReport read.options)
      | some false => say (optionCommands read.options)
      | none => pure ()
      modify fun s =>
        let s := { s with options := read.options }
        if read.left.isEmpty && !read.clears then s else { s.rewound with args := read.left }
  setStatus 0

/-- Drops arguments at the front. -/
def shift (args : List String) : Act Unit := do
  let count ← match args with
    | [] => pure 1
    | arg :: _ => numberArgument arg
  let s ← get
  if s.args.length < count then giveUp "can't shift that many"
  set { s.rewound with args := s.args.drop count }
  setStatus 0

/-- What an option letter is in a list of those that there are: whether it has an argument. -/
def letterIn? (known : List Char) (c : Char) : Option Bool :=
  match known with
  | [] => none
  | k :: ':' :: rest => if k = c then some true else letterIn? rest c
  | k :: rest => if k = c then some false else letterIn? rest c

/-- What was found when arguments were looked through for the next option: its name, its argument,
what is complained about, and how far the arguments are behind.  The name of no option is a question
mark, and `isEnd` tells that there are no more of them. -/
structure OptionFound where
  name : Char
  argument : Option String
  complaint : Option String
  index : Nat
  letter : Option Nat
  isEnd : Bool

/-- Looks through arguments for the next option, beginning with an argument that is counted from one
and, if some of its letters are behind, with its next letter. -/
def findOption (known : List Char) (args : List String) (index : Nat) (letter : Option Nat) :
    OptionFound :=
  let begun : Option (List Char) := match letter with
    | some size =>
      if index ≤ 1 then none else args[index - 2]?.map fun arg => arg.toList.drop size
    | none => none
  let (text, index) := match begun with
    | some (c :: rest) => (some (c :: rest), index)
    | _ =>
      match args[index - 1]?.map String.toList with
      | some ['-', '-'] => (none, index + 1)
      | some ('-' :: c :: rest) => (some (c :: rest), index + 1)
      | _ => (none, index)
  match text with
  | none => ⟨'?', none, none, index, none, true⟩
  | some [] => ⟨'?', none, none, index, none, true⟩
  | some (c :: rest) =>
    let size := ((args[index - 2]?.map fun arg => arg.toList.length).getD 0) - rest.length
    let isQuiet := known.head? = some ':'
    match if c = ':' then none else letterIn? (if isQuiet then known.tail else known) c with
    | none =>
      if isQuiet then ⟨'?', some (toString c), none, index, some size, false⟩
      else ⟨'?', none, some ("Illegal option -" ++ toString c), index, some size, false⟩
    | some false => ⟨c, some "", none, index, some size, false⟩
    | some true =>
      if !rest.isEmpty then ⟨c, some (String.ofList rest), none, index, none, false⟩
      else
        match args[index - 1]? with
        | some arg => ⟨c, some arg, none, index + 1, none, false⟩
        | none =>
          if isQuiet then ⟨':', some (toString c), none, index, some size, false⟩
          else
            let complaint := "No arg for -" ++ toString c ++ " option"
            ⟨'?', none, some complaint, index, some size, false⟩

/-- Looks for the next option among the arguments. -/
def getOption (args : List String) : Act Unit := do
  let (_, words) ← optionsOf [] args
  match words with
  | known :: name :: given =>
    let s ← get
    let all := if given.isEmpty then s.args else given
    let s := if s.argument > all.length + 1 then s.rewound else s
    let found := findOption known.toList all s.argument s.letter
    match found.complaint with
    | some text => complain text
    | none => pure ()
    if !found.isEnd then
      match found.argument with
      | some value => assignVariable "OPTARG" value
      | none => modify fun s => s.unset "OPTARG"
    assignVariable "OPTIND" (toString found.index)
    assignVariable name (toString found.name)
    modify fun s => { s with argument := found.index, letter := found.letter }
    setStatus (if found.isEnd then 1 else 0)
  | _ => giveUp "Usage: getopts optstring var [arg...]"

/-! ### Reading lines -/

/-- The number of bytes up to the end of a line, where a backslash in front of a line feed makes it
go on unless lines are taken as they are, and whether the line ends there. -/
def lineSize (isRaw : Bool) : List UInt8 → Nat × Bool
  | [] => (0, false)
  | 92 :: b :: rest =>
    if isRaw then
      let (size, isEnded) := lineSize isRaw (b :: rest)
      (size + 1, isEnded)
    else
      let (size, isEnded) := lineSize isRaw rest
      (size + 2, isEnded)
  | b :: rest =>
    if b = 10 then (1, true)
    else
      let (size, isEnded) := lineSize isRaw rest
      (size + 1, isEnded)

/-- Takes a line from what is left to read, in so many rounds at most, and whether it ends; `taken`
is what was taken of it before. -/
def receiveLine (isRaw : Bool) (h : Option Handle) :
    (rounds : Nat) → (taken : List UInt8) → Doing (List UInt8 × Bool)
  | 0, taken => return (taken, false)
  | rounds + 1, taken => do
    match h with
    | some (.source pipe) => Doing.await (.input pipe)
    | _ => pure ()
    let (w, found) := (← get).look h
    let bytes := found.toOption.getD []
    let all := taken ++ bytes
    let (size, isEnded) := lineSize isRaw all
    set (w.skip h (size - taken.length))
    if isEnded ∨ bytes.isEmpty then return (all.take size, isEnded)
    else receiveLine isRaw h rounds all

/-- The cells of a line: what a backslash protects is not cut. -/
def lineCells (isRaw : Bool) : List Char → List Cell
  | [] => []
  | '\\' :: c :: rest =>
    if isRaw then .char '\\' false true :: lineCells isRaw (c :: rest)
    else if c = '\n' then .edge false :: lineCells isRaw rest
    else .char c false false :: .edge false :: lineCells isRaw rest
  | c :: rest =>
    if c = '\\' && !isRaw then [] else .char c false true :: lineCells isRaw rest

/-- Reads a line into variables. -/
def readLine (args : List String) : Act Unit := do
  let (options, names) ← optionsOf [('p', true), ('r', false)] args
  if names.isEmpty then giveUp "arg count"
  let s ← get
  let isRaw := options.any (·.1 = 'r')
  let (bytes, isEnded) ← onWorld (receiveLine isRaw (s.handle? 0) Doing.endless [])
  let text := Text.ofBytes ((if isEnded then bytes.dropLast else bytes).filter (· ≠ 0))
  let shares := Cell.shares s.separators names.length (.edge false :: lineCells isRaw text.toList)
  for (name, value) in names.zip (shares ++ names.map fun _ => "") do
    assignVariable name value
  setStatus (if isEnded then 0 else 1)

/-! ### Aliases and programs found -/

/-- An alias as it could be set. -/
def aliasShown (name value : String) : String :=
  name ++ "=" ++ shellQuoted value

/-- Sets aliases or shows them. -/
def setAliases (args : List String) : Act Unit := do
  setStatus 0
  if args.isEmpty then
    let all := (← get).aliases.mergeSort fun a b => State.bucket 39 a.1 ≤ State.bucket 39 b.1
    say (String.join (all.map fun (name, value) => aliasShown name value ++ "\n"))
  else
    for arg in args do
      match cutSetting arg with
      | (name, some value) =>
        if name.isEmpty then complain ("alias: " ++ arg ++ " not found")
        else modify fun s =>
          let isKnown := s.aliases.any (·.1 = name)
          { s with aliases :=
              if isKnown then s.aliases.map fun a => if a.1 = name then (name, value) else a
              else s.aliases ++ [(name, value)] }
      | (name, none) =>
        match (← get).aliases.lookup name with
        | some value => say (aliasShown name value ++ "\n")
        | none =>
          complain ("alias: " ++ name ++ " not found")
          setStatus 1

/-- Forgets aliases. -/
def forgetAliases (args : List String) : Act Unit := do
  let (options, names) ← optionsOf [('a', false)] args
  setStatus 0
  if !options.isEmpty then modify fun s => { s with aliases := [] }
  else
    for name in names do
      if ((← get).aliases.lookup name).isSome then
        modify fun s => { s with aliases := s.aliases.filter (·.1 ≠ name) }
      else
        complain ("unalias: " ++ name ++ " not found")
        setStatus 1

/-- The variables with the one that says where programs are looked for. -/
def State.searching (s : State) : List (String × String) :=
  match s.held? "PATH" with
  | some path => ("PATH", path) :: s.environment
  | none => s.environment

/-- The program that a name stands for as a command.  An empty name stands for directories. -/
def State.program (s : State) (name : String) : Except FileError String :=
  if name.isEmpty then .error .permissionDenied else findProgram s.world.tree s.searching name

/-- The path of the program that a name stands for. -/
def State.programPath? (s : State) (name : String) : Option String :=
  if name.isEmpty then none
  else if name.toList.contains '/' then
    if (programAt s.world.tree name).isOk then some name else none
  else
    ((searchPath s.searching).map fun dir => if dir.isEmpty then name else dir ++ "/" ++ name).find?
      fun path => (programAt s.world.tree path).isOk

/-- Remembers where the program of a name is. -/
def remember (name : String) : Act Unit :=
  modify fun s =>
    if name.toList.contains '/' ∨ (s.remembered.lookup name).isSome then s
    else
      match s.programPath? name with
      | some path => { s with remembered := s.remembered ++ [(name, path)] }
      | none => s

/-- Remembers where programs are, shows it, or forgets it. -/
def useRemembered (args : List String) : Act Unit := do
  let (options, names) ← optionsOf [('r', false)] args
  setStatus 0
  if !options.isEmpty then modify fun s => { s with remembered := [] }
  else if names.isEmpty then
    let all := (← get).remembered.mergeSort fun a b => State.bucket 31 a.1 ≤ State.bucket 31 b.1
    say (String.join (all.map fun entry => entry.2 ++ "\n"))
  else
    for name in names do
      if ((← get).programPath? name).isSome then remember name
      else
        warn (name ++ ": not found")
        setStatus 1

/-! ### The mask for new files -/

/-- The digits of a number to the base of eight, four at least. -/
def octal (n : Nat) : String :=
  let digits := Text.inBase 8 n
  String.ofList (List.replicate (4 - digits.length) '0' ++ digits)

/-- What somebody may do, in letters. -/
def permissions (bits : Nat) : String :=
  String.join [if bits / 4 % 2 = 1 then "r" else "", if bits / 2 % 2 = 1 then "w" else "",
    if bits % 2 = 1 then "x" else ""]

/-- What everybody may do who is not masked, in letters. -/
def maskReport (mask : Nat) : String :=
  let allowed := 511 - mask
  "u=" ++ permissions (allowed / 64 % 8) ++ ",g=" ++ permissions (allowed / 8 % 8) ++
    ",o=" ++ permissions (allowed % 8)

/-- The bits that letters stand for, if they are letters for what somebody may do. -/
def permissionBits? (letters : List Char) : Option Nat :=
  letters.foldlM (fun bits c =>
    match c with
    | 'r' => some (bits ||| 4)
    | 'w' => some (bits ||| 2)
    | 'x' => some (bits ||| 1)
    | _ => none) 0

/-- What is allowed after one clause such as `u+w`, if it is one. -/
def afterClause? (allowed : Nat) (clause : List Char) : Option Nat :=
  let who := clause.takeWhile "ugoa".toList.contains
  let everybody := who.isEmpty || who.contains 'a'
  let spread (bits : Nat) : Nat :=
    (if everybody || who.contains 'u' then bits * 64 else 0) +
      (if everybody || who.contains 'g' then bits * 8 else 0) +
      (if everybody || who.contains 'o' then bits else 0)
  match clause.drop who.length with
  | operator :: letters => do
    let bits := spread (← permissionBits? letters)
    match operator with
    | '+' => some (allowed ||| bits)
    | '-' => some (allowed - (allowed &&& bits))
    | '=' => some (allowed - (allowed &&& spread 7) + bits)
    | _ => none
  | [] => none

/-- Sets the mask for new files or shows it. -/
def useMask (args : List String) : Act Unit := do
  let (options, words) ← optionsOf [('S', false)] args
  setStatus 0
  match words with
  | [] =>
    let mask := (← get).mask
    say ((if options.isEmpty then octal mask else maskReport mask) ++ "\n")
  | word :: _ =>
    if (word.toList.head?.map Char.isDigit).getD false then
      match Text.natOf? 8 word.toList with
      | some mask => modify fun s => { s with mask := mask % 512 }
      | none => giveUp ("Illegal number: " ++ word)
    else
      match (Text.cut (· = ',') word.toList).foldlM afterClause? (511 - (← get).mask) with
      | some allowed => modify fun s => { s with mask := 511 - allowed }
      | none => giveUp ("Illegal mode: " ++ word)

end CheckMatrix.Shell
