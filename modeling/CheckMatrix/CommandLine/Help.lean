/-
Explanations of the command line.

A page says what a form is for, how it is used, and what its options mean, in columns as wide as the
longest option.  Where colours are shown, what is typed as it stands is bold, and headings are bold
and underlined.
-/
import CheckMatrix.CommandLine.Reader
import CheckMatrix.Voice

namespace CheckMatrix

/-- The meaning of an option. -/
def Wording.explain (w : Wording) : OptionName → String
  | .examples => w.helpExamples
  | .workspace => w.helpWorkspace
  | .group => w.helpGroup
  | .config => w.helpConfig ++ " [default: " ++ defaultConfigFile ++ "]"
  | .projectDir => w.helpProjectDir ++ " [default: " ++ defaultProjectDir ++ "]"
  | .list => w.helpList
  | .lang => w.helpLang
  | .output => w.helpOutput ++ " [default: " ++ defaultConfigFile ++ "]"
  | .force => w.helpForce
  | .help => "Print help"
  | .version => "Print version"

/-! ### Emphasis -/

/-- A text that is typed as it stands. -/
def Voice.literal (v : Voice) (text : String) : String :=
  v.paint .bold text

/-- A heading: bold and underlined, each switched on by itself. -/
def Voice.heading (v : Voice) (text : String) : String :=
  if v.colour then
    String.ofList
      (Style.sequence [1] ++ Style.sequence [4] ++ text.toList ++ Style.off)
  else text

/-! ### Columns -/

/-- A line of two columns; the left one is measured without its emphasis. -/
structure HelpRow where
  left : String
  shown : String
  right : String

/-- A line whose left column is typed as it stands. -/
def HelpRow.ofLiteral (v : Voice) (text right : String) : HelpRow :=
  ⟨text, v.literal text, right⟩

/-- An option as it is written, with its names put in a given way. -/
def OptionName.usage (o : OptionName) (literal : String → String) : String :=
  (match o.letter? with
    | some c => literal ("-" ++ toString c) ++ ", "
    | none => "    ") ++
  literal ("--" ++ o.long) ++
  (match o.valueName? with
    | some name => " <" ++ name ++ ">"
    | none => "")

/-- The line that explains an option. -/
def HelpRow.ofOption (v : Voice) (o : OptionName) : HelpRow :=
  ⟨o.usage id, o.usage v.literal, v.wording.explain o⟩

/-- Two columns, the first as wide as it has to be. -/
def columns (rows : List HelpRow) : String :=
  let width := (rows.map (·.left.length)).foldl max 0
  String.join (rows.map fun row =>
    let blanks := String.ofList (List.replicate (width - row.left.length) ' ')
    "  " ++ row.shown ++ blanks ++ "  " ++ row.right ++ "\n")

/-- The part of a page that explains options. -/
def optionTable (v : Voice) (options : List OptionName) : String :=
  v.heading "Options:" ++ "\n" ++ columns (options.map (.ofOption v))

/-! ### Pages -/

/-- What the request for an explanation is for. -/
def aboutHelp : String := "Print this message or the help of the given subcommand(s)"

/-- The line that says how a form is used. -/
def usageLine (v : Voice) (command arguments : String) : String :=
  v.heading "Usage:" ++ " " ++ v.literal command ++ " " ++ arguments ++ "\n"

/-- The text of a page. -/
def HelpPage.text (v : Voice) : HelpPage → String
  | .run =>
    v.wording.about ++ "\n\n" ++
    usageLine v programName "[OPTIONS]" ++
    "       " ++ v.literal programName ++ " <COMMAND>\n\n" ++
    v.heading "Commands:" ++ "\n" ++
    columns [.ofLiteral v initWord v.wording.aboutInit, .ofLiteral v helpWord aboutHelp] ++ "\n" ++
    optionTable v runFormOptions ++ "\n" ++
    v.wording.afterHelp defaultConfigFile ++ "\n"
  | .init =>
    v.wording.aboutInit ++ "\n\n" ++
    usageLine v (programName ++ " " ++ initWord) "[OPTIONS]" ++ "\n" ++
    optionTable v initFormOptions
  | .help =>
    aboutHelp ++ "\n\n" ++
    usageLine v (programName ++ " " ++ helpWord) "[COMMAND]..." ++ "\n" ++
    v.heading "Arguments:" ++ "\n" ++
    columns [⟨"[COMMAND]...", "[COMMAND]...", "Print help for the subcommand(s)"⟩]

end CheckMatrix
