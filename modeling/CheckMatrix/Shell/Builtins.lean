/-
The commands that a shell carries out itself.

Most of them change what the shell remembers, which no other program could do; some are tools that
are built in.  A few more need scripts to be carried out and are only named here.
-/
import CheckMatrix.Machine.Tools
import CheckMatrix.Shell.Directory
import CheckMatrix.Shell.Reader
import CheckMatrix.Shell.Signals

namespace CheckMatrix.Shell

/-! ### Tools -/

/-- Carries out a tool; what is wrong is said under a label that ends with its name. -/
def useTool (tool : Tool) (name : String) (args : List String) : Act Unit := do
  let s ← get
  let label := s.name ++ ": " ++ toString s.line ++ ": " ++ name
  setStatus (← onWorld (tool (s.call s.own label args)))

/-- Carries out a tool that has no options of its own. -/
def useStrictTool (tool : Tool) (name : String) (args : List String) : Act Unit := do
  let (_, words) ← optionsOf [] args
  useTool tool name ("--" :: words)

/-- A command that only ends with a status. -/
def endWith (status : Nat) (_ : List String) : Act Unit :=
  setStatus status

/-- Shows the time that was used, which is none. -/
def showTimes (_ : List String) : Act Unit := do
  say "0m0.000000s 0m0.000000s\n0m0.000000s 0m0.000000s\n"
  setStatus 0

/-- Shows a limit; there are none. -/
def showLimit (args : List String) : Act Unit := do
  let letters := "HSatfdscmlpnvwr".toList
  let _ ← optionsOf (letters.map fun c => (c, false)) args
  say "unlimited\n"
  setStatus 0

/-! ### All of them -/

/-- The commands that the evaluation of scripts carries out. -/
def controlNames : List String := [
  ".", "break", "command", "continue", "eval", "exec", "exit", "return", "type", "wait"]

/-- The commands that need no evaluation of scripts. -/
def builtinTable : List (String × (List String → Act Unit)) := [
  (":", endWith 0),
  ("true", endWith 0),
  ("false", endWith 1),
  ("echo", useTool Tool.plainEcho "echo"),
  ("printf", useStrictTool Tool.printf "printf"),
  ("test", useTool Tool.test "test"),
  ("[", useTool Tool.bracket "["),
  ("alias", setAliases),
  ("bg", continueJob),
  ("cd", changeDirectory),
  ("chdir", changeDirectory),
  ("export", mark false),
  ("fg", continueJob),
  ("getopts", getOption),
  ("hash", useRemembered),
  ("jobs", showJobs),
  ("kill", useSignals),
  ("local", takeLocals),
  ("pwd", showDirectory),
  ("read", readLine),
  ("readonly", mark true),
  ("set", setOptions),
  ("shift", shift),
  ("times", showTimes),
  ("trap", setActions),
  ("ulimit", showLimit),
  ("umask", useMask),
  ("unalias", forgetAliases),
  ("unset", forget)]

/-- The shell carries out a command of this name itself. -/
def isBuiltin (name : String) : Bool :=
  (builtinTable.lookup name).isSome || controlNames.contains name

/-- The commands whose arguments are taken for settings if they have their form. -/
def settingNames : List String := ["alias", "export", "local", "readonly"]

/-! ### What names stand for -/

/-- What a name stands for as a command. -/
inductive Meaning
  | keyword
  | abbreviation (value : String)
  | function
  | builtin (isSpecial : Bool)
  | program (path : String) (isRemembered : Bool)
  | unknown
  deriving DecidableEq, Repr

/-- What a name stands for as a command; `isPlain` tells that functions and what is remembered do
not count. -/
def State.meaning (s : State) (isPlain : Bool) (name : String) : Meaning :=
  if reservedWords.contains name then .keyword
  else
    match s.aliases.lookup name with
    | some value => .abbreviation value
    | none =>
      if !isPlain && (s.functions.lookup name).isSome then .function
      else if isBuiltin name then .builtin (specialNames.contains name)
      else
        match if isPlain then none else s.remembered.lookup name with
        | some path => .program path true
        | none =>
          if name.toList.contains '/' then
            if s.world.tree.pathExists (.ofPacked name) then .program name false else .unknown
          else
            match s.programPath? name with
            | some path => .program path false
            | none => .unknown

/-- What a name stands for, in many words. -/
def Meaning.described (name : String) : Meaning → String
  | keyword => name ++ " is a shell keyword"
  | abbreviation value => name ++ " is an alias for " ++ value
  | function => name ++ " is a shell function"
  | builtin true => name ++ " is a special shell builtin"
  | builtin false => name ++ " is a shell builtin"
  | program path true => name ++ " is a tracked alias for " ++ path
  | program path false => name ++ " is " ++ path
  | unknown => name ++ ": not found"

/-- What a name stands for, in as few words as possible; nothing if it stands for nothing. -/
def Meaning.brief (name : String) : Meaning → String
  | abbreviation value => "alias " ++ aliasShown name value ++ "\n"
  | program path _ => path ++ "\n"
  | unknown => ""
  | _ => name ++ "\n"

/-- Tells what names stand for. -/
def describeNames (names : List String) : Act Unit := do
  let s ← get
  let meanings := names.map fun name => (name, s.meaning false name)
  say (String.join (meanings.map fun (name, meaning) => meaning.described name ++ "\n"))
  setStatus (if meanings.any (·.2 = .unknown) then 127 else 0)

/-- Tells what one name stands for, or does nothing. -/
def describeCommand (args : List String) : Act Unit := do
  let (options, words) ← optionsOf [('p', false), ('v', false), ('V', false)] args
  let letters := options.map Prod.fst
  setStatus 0
  match words with
  | [] => pure ()
  | name :: _ =>
    let meaning := (← get).meaning (letters.contains 'p') name
    if letters.contains 'V' then say (meaning.described name ++ "\n")
    else if letters.contains 'v' then say (meaning.brief name)
    if meaning = .unknown ∧ letters ≠ [] then setStatus 127

/-- A command behind the word that asks for it itself and not for a function of its name, and
whether that word has the options for it: without a command, or with other options, it is one of
its own. -/
def commandBehind? : List String → Option (List String)
  | [] => none
  | arg :: rest =>
    match arg.toList with
    | ['-', '-'] => if rest.isEmpty then none else some rest
    | '-' :: c :: letters => if (c :: letters).all (· = 'p') then commandBehind? rest else none
    | _ => some (arg :: rest)

end CheckMatrix.Shell
