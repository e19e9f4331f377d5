/-
Reading a command line.

The arguments are read from left to right, and the first thing that is wrong ends the reading.  An
option that waits for its value is settled only when the next option begins or the arguments end, so
what is wrong with a value shows after what is wrong with the option behind it.

A word that is no option is the name of a form, and only before any option was given.
-/
import CheckMatrix.CommandLine.Options

namespace CheckMatrix

/-! ### Why reading stops -/

/-- What can be wrong with a command line. -/
inductive Misuse
  | unknownArgument
  | argumentConflict
  | invalidValue
  | invalidSubcommand
  | tooManyValues
  deriving DecidableEq, Repr

/-- What can be explained. -/
inductive HelpPage
  | run
  | init
  | help
  deriving DecidableEq, Repr

/-- Why a command line asks for nothing to be done. -/
inductive Stop
  | misuse (cause : Misuse)
  | help (page : HelpPage)
  | version
  deriving DecidableEq, Repr

/-! ### Arguments -/

/-- The shape of an argument. -/
inductive Shape
  | endOfOptions
  | long (name : String) (value : Option String)
  | letters (letters : List Char)
  | word
  deriving DecidableEq, Repr

/-- The part of an argument in front of its first equals sign, and what stands behind it. -/
def cutAtEquals (text : List Char) : String × Option String :=
  let name := text.takeWhile (· ≠ '=')
  (String.ofList name,
    if name.length < text.length then some (String.ofList (text.drop (name.length + 1))) else none)

/-- Tells options from other words. -/
def Shape.ofText : List Char → Shape
  | ['-', '-'] => .endOfOptions
  | '-' :: '-' :: rest => let (name, value) := cutAtEquals rest; .long name value
  | ['-'] => .word
  | '-' :: rest => .letters rest
  | _ => .word

/-! ### Options and their values -/

/-- What was read so far: the options that are settled, with their values, and the one that is not,
which waits for its value or has it already. -/
structure Progress where
  given : List (OptionName × Option String)
  pending : Option (OptionName × Option String)
  deriving DecidableEq, Repr

namespace Progress

/-- Nothing was read. -/
def empty : Progress := ⟨[], none⟩

/-- An option was given. -/
def hasOption (s : Progress) : Bool :=
  !s.given.isEmpty || s.pending.isSome

/-- The option is settled. -/
def hasGiven (s : Progress) (o : OptionName) : Bool :=
  s.given.any (·.1 = o)

/-- Takes an option with all it needs. -/
def accept (page : HelpPage) (s : Progress) (o : OptionName) (value : Option String) :
    Except Stop Progress :=
  if o = .help then .error (.help page)
  else if o = .version then .error .version
  else if s.hasGiven o && !o.isRepeatable then .error (.misuse .argumentConflict)
  else if o.isPath && value = some "" then .error (.misuse .invalidValue)
  else .ok { s with given := s.given ++ [(o, value)] }

/-- Takes the option that is not settled. -/
def settle (page : HelpPage) (s : Progress) : Except Stop Progress :=
  match s.pending with
  | none => .ok s
  | some (_, none) => .error (.misuse .invalidValue)
  | some (o, some value) => accept page { s with pending := none } o (some value)

/-- Takes an option that stands complete in its argument. -/
def take (page : HelpPage) (s : Progress) (o : OptionName) (value : Option String) :
    Except Stop Progress := do
  (← s.settle page).accept page o value

/-- Begins an option whose value is the next argument. -/
def await (page : HelpPage) (s : Progress) (o : OptionName) : Except Stop Progress := do
  return { ← s.settle page with pending := some (o, none) }

/-- Reads an option by its long name. -/
def readLong (page : HelpPage) (options : List OptionName) (s : Progress) (name : String)
    (value : Option String) : Except Stop Progress :=
  match options.find? (·.long = name) with
  | none => .error (.misuse .unknownArgument)
  | some o =>
    match value with
    | some value =>
      if o.takesValue then s.take page o (some value) else .error (.misuse .tooManyValues)
    | none => if o.takesValue then s.await page o else s.take page o none

/-- Reads options by their letters; what stands behind the letter of an option with a value is its
value, with or without an equals sign. -/
def readLetters (page : HelpPage) (options : List OptionName) :
    Progress → List Char → Except Stop Progress
  | s, [] => .ok s
  | s, c :: rest =>
    match options.find? (·.letter? = some c) with
    | none => .error (.misuse .unknownArgument)
    | some o =>
      if o.takesValue then
        match rest with
        | [] => s.await page o
        | '=' :: value => s.take page o (some (String.ofList value))
        | value => s.take page o (some (String.ofList value))
      else do readLetters page options (← s.take page o none) rest

/-- The value of an option, if it was given. -/
def value? (s : Progress) (o : OptionName) : Option String :=
  (s.given.lookup o).join

/-- The values of an option that may be given more than once. -/
def values (s : Progress) (o : OptionName) : List String :=
  s.given.filterMap fun e => if e.1 = o then e.2 else none

end Progress

/-- What one argument does. -/
inductive Advance
  | on (s : Progress)
  | endOfOptions
  | stray
  deriving DecidableEq, Repr

/-- Reads one argument in front of the end of the options. -/
def readArgument (page : HelpPage) (options : List OptionName) (s : Progress) (arg : String) :
    Except Stop Advance :=
  match Shape.ofText arg.toList with
  | .endOfOptions => .ok .endOfOptions
  | .long name value => (s.readLong page options name value).map .on
  | .letters letters => (s.readLetters page options letters).map .on
  | .word =>
    match s.pending with
    | some (o, none) => .ok (.on { s with pending := some (o, some arg) })
    | _ => .ok .stray

/-! ### The form that writes a configuration -/

/-- What the arguments of this form ask for. -/
def initOptions (s : Progress) : InitOptions where
  output := .ofText ((s.value? .output).getD defaultConfigFile)
  force := s.hasGiven .force
  lang := s.value? .lang

/-- Reads the arguments of this form; `ended` tells whether the options have ended. -/
def readInitForm : (ended : Bool) → Progress → List String → Except Stop InitOptions
  | _, s, [] => (s.settle .init).map initOptions
  | true, _, _ :: _ => .error (.misuse .unknownArgument)
  | false, s, arg :: rest =>
    match readArgument .init initFormOptions s arg with
    | .error stop => .error stop
    | .ok (.on s) => readInitForm false s rest
    | .ok .endOfOptions => readInitForm true s rest
    | .ok .stray => .error (.misuse .unknownArgument)

/-! ### The form that runs checks -/

/-- What the arguments of this form ask for. -/
def runOptions (s : Progress) : RunOptions where
  selection := .ofFlags (s.hasGiven .examples) (s.hasGiven .workspace) (s.values .group)
  config := .ofText ((s.value? .config).getD defaultConfigFile)
  projectDir := .ofText ((s.value? .projectDir).getD defaultProjectDir)
  list := s.hasGiven .list
  lang := s.value? .lang

/-- What the words behind the request for an explanation ask to be explained. -/
def helpFor : List String → Stop
  | [] => .help .run
  | [word] =>
    if word = initWord then .help .init
    else if word = helpWord then .help .help
    else .misuse .invalidSubcommand
  | _ => .misuse .invalidSubcommand

/-- The word is the name of a form. -/
def isFormWord (arg : String) : Bool :=
  arg = initWord || arg = helpWord

/-- What is wrong with a word that is in nobody's place. -/
def strayWord (ended : Bool) (s : Progress) (arg : String) : Misuse :=
  if s.hasOption then .argumentConflict
  else if ended && isFormWord arg then .unknownArgument
  else .invalidSubcommand

/-- Reads the arguments of a command line. -/
def readRunForm : (ended : Bool) → Progress → List String → Except Stop Invocation
  | _, s, [] => (s.settle .run).map fun s => .run (runOptions s)
  | true, s, arg :: _ => .error (.misuse (strayWord true s arg))
  | false, s, arg :: rest =>
    if !s.hasOption && arg = initWord then (readInitForm false .empty rest).map .init
    else if !s.hasOption && arg = helpWord then .error (helpFor rest)
    else
      match readArgument .run runFormOptions s arg with
      | .error stop => .error stop
      | .ok (.on s) => readRunForm false s rest
      | .ok .endOfOptions => readRunForm true s rest
      | .ok .stray => .error (.misuse (strayWord false s arg))

/-- What a command line, without the name of the program, asks for. -/
def readCommandLine (args : List String) : Except Stop Invocation :=
  readRunForm false .empty args

/-! ### The language, ahead of everything else -/

/-- The language of help texts: what stands behind the first `--lang`, or else behind the first
`--lang=`.  It is looked for before anything else is read. -/
def languageAhead (args : List String) : Option String :=
  match args.dropWhile (· ≠ "--lang") with
  | _ :: rest => rest.head?
  | [] =>
    args.findSome? fun arg =>
      if "--lang=".toList.isPrefixOf arg.toList then
        some (String.ofList (arg.toList.drop "--lang=".length))
      else none

end CheckMatrix
