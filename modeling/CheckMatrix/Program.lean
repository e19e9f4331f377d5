/-
The whole program.

A command line is read, carried out, and answered by an exit code: zero or one for a check that
passed or failed, two for everything that kept it from being made.  The language of the first words
is looked up ahead of the reading, since the reading itself may have to explain something.

A check that breaks off takes the program with it: nothing is explained or cleared away any more.
-/
import CheckMatrix.Checking
import CheckMatrix.CommandLine.Help
import CheckMatrix.Init

namespace CheckMatrix

/-- How the program ends. -/
structure ProgramEnd where
  exitCode : Nat
  shown : Transcript
  tree : FileTree

/-- The exit code when a check could not be made. -/
def fatalCode : Nat := 2

/-- The exit code when everything broke off: the signal to abort is number six. -/
def abortCode : Nat := 128 + 6

/-- The exit code that stands for the result of a check. -/
def exitCodeOf (result : Int) : Nat :=
  if 0 ≤ result ∧ result < 256 then result.toNat else 1

/-- Colours are shown when they are insisted on; the program never takes its output for a
terminal. -/
def wantsColour (process : ProcessEnv) : Bool :=
  match process.get? "CLICOLOR_FORCE" with
  | some setting => setting ≠ "0"
  | none => false

/-- Explanations are emphasised when colours are asked for, in any way, and not refused. -/
def wantsEmphasis (process : ProcessEnv) : Bool :=
  (Locale.setting? process "CLICOLOR_FORCE").isSome && (Locale.setting? process "NO_COLOR").isNone

/-- What is said about a command line that cannot be read. -/
def Misuse.message : Misuse → String
  | .unknownArgument => "unexpected argument"
  | .argumentConflict => "arguments that cannot be used together"
  | .invalidValue => "invalid value"
  | .invalidSubcommand => "unrecognized subcommand"
  | .tooManyValues => "unexpected value"

/-- The line that reports a failure. -/
def failureLine (v : Voice) (message : String) : Transcript :=
  Transcript.ofText .err (v.paint .boldRed v.wording.errorMark ++ " " ++ message ++ "\n")

/-- The answer to a command line that asks for something else than work. -/
def answerStop (v : Voice) (emphasis : Bool) (t : FileTree) : Stop → ProgramEnd
  | .misuse cause => ⟨fatalCode, Transcript.ofText .err ("error: " ++ cause.message ++ "\n"), t⟩
  | .help page => ⟨0, Transcript.ofText .out (page.text { v with colour := emphasis }), t⟩
  | .version => ⟨0, Transcript.ofText .out versionLine, t⟩

/-- Carries out what a command line asks for. -/
def carryOut (b : Workbench) (v : Voice) (t : FileTree) : Invocation → ProgramEnd
  | .init o =>
    match writeFirstConfig v o.output o.force t with
    | (t, shown, .ok ()) => ⟨0, shown, t⟩
    | (t, shown, .error e) => ⟨fatalCode, shown ++ failureLine v (e.message v.wording), t⟩
  | .run o =>
    let ending := check b v o t
    match ending.result with
    | .ok code => ⟨exitCodeOf code, ending.shown, ending.tree⟩
    | .error (.run .overflow) =>
      ⟨abortCode, ending.shown ++ Transcript.ofText .err (RunError.overflow.message ++ "\n"),
        ending.tree⟩
    | .error e =>
      ⟨fatalCode, ending.shown ++ failureLine ending.voice (e.message ending.voice.wording),
        ending.tree⟩

/-- The whole program, given its arguments. -/
def runProgram (b : Workbench) (args : List String) (t : FileTree) : ProgramEnd :=
  let v : Voice := ⟨.initial (languageAhead args) b.process, wantsColour b.process⟩
  match readCommandLine args with
  | .error stop => answerStop v (wantsEmphasis b.process) t stop
  | .ok invocation => carryOut b v t invocation

end CheckMatrix
