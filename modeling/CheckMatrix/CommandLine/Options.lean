/-
The options of the command line.

An option has a long name, perhaps a letter, and perhaps a value.  All but one may be given once.
There are two forms of the command line, one that runs checks and one that writes a configuration,
and each has its own options.
-/
import CheckMatrix.Selection

namespace CheckMatrix

/-- The options there are. -/
inductive OptionName
  | examples
  | workspace
  | group
  | config
  | projectDir
  | list
  | lang
  | output
  | force
  | help
  | version
  deriving DecidableEq, Repr

namespace OptionName

/-- The long name, as it stands behind two hyphens. -/
def long : OptionName → String
  | examples => "examples"
  | workspace => "workspace"
  | group => "group"
  | config => "config"
  | projectDir => "project-dir"
  | list => "list"
  | lang => "lang"
  | output => "output"
  | force => "force"
  | help => "help"
  | version => "version"

/-- The letter, as it stands behind one hyphen. -/
def letter? : OptionName → Option Char
  | examples => some 'e'
  | workspace => some 'w'
  | group => some 'g'
  | config => some 'c'
  | output => some 'o'
  | help => some 'h'
  | version => some 'V'
  | _ => none

/-- What the value of an option is called, if it has one. -/
def valueName? : OptionName → Option String
  | group => some "GROUP"
  | config => some "CONFIG"
  | projectDir => some "PROJECT_DIR"
  | lang => some "LANGUAGE"
  | output => some "PATH"
  | _ => none

/-- The option has a value. -/
def takesValue (o : OptionName) : Bool :=
  o.valueName?.isSome

/-- The option may be given more than once. -/
def isRepeatable (o : OptionName) : Bool :=
  o = group

/-- The value of the option is a path, which cannot be empty. -/
def isPath (o : OptionName) : Bool :=
  o = config || o = projectDir || o = output

end OptionName

/-- The options of the form that runs checks, in the order in which they are explained. -/
def runFormOptions : List OptionName :=
  [.examples, .workspace, .group, .config, .projectDir, .list, .lang, .help, .version]

/-- The options of the form that writes a configuration. -/
def initFormOptions : List OptionName :=
  [.output, .force, .lang, .help]

/-- The name of the program. -/
def programName : String := "workspace-checker"

/-- The line that tells the version. -/
def versionLine : String := "workspace-checker 0.1.0\n"

/-- The configuration that is read, and written, unless another one is named. -/
def defaultConfigFile : String := "checks.toml"

/-- The directory that paths start from unless another one is named. -/
def defaultProjectDir : String := "."

/-- The word that chooses the form that writes a configuration. -/
def initWord : String := "init"

/-- The word that asks for an explanation. -/
def helpWord : String := "help"

/-- What to run and how. -/
structure RunOptions where
  selection : Selection
  config : Path
  projectDir : Path
  list : Bool
  lang : Option String
  deriving DecidableEq, Repr

/-- Where to write a configuration. -/
structure InitOptions where
  output : Path
  force : Bool
  lang : Option String
  deriving DecidableEq, Repr

/-- What a command line asks for. -/
inductive Invocation
  | run (options : RunOptions)
  | init (options : InitOptions)
  deriving DecidableEq, Repr

/-- The language that a command line asks for. -/
def Invocation.lang : Invocation → Option String
  | run options => options.lang
  | init options => options.lang

end CheckMatrix
