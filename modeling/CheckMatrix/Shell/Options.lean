/-
Options.

A shell has options with names, most of which have a letter too; they are set when it is called or
later on.  The commands that it carries out itself have options of their own, which are letters with
or without an argument.
-/
namespace CheckMatrix.Shell

/-! ### Options of the shell -/

/-- The options of a shell by name, with their letters. -/
def optionTable : List (String × Option Char) := [
  ("errexit", some 'e'),
  ("noglob", some 'f'),
  ("ignoreeof", some 'I'),
  ("interactive", some 'i'),
  ("monitor", some 'm'),
  ("noexec", some 'n'),
  ("stdin", some 's'),
  ("xtrace", some 'x'),
  ("verbose", some 'v'),
  ("vi", some 'V'),
  ("emacs", some 'E'),
  ("noclobber", some 'C'),
  ("allexport", some 'a'),
  ("notify", some 'b'),
  ("nounset", some 'u'),
  ("privileged", some 'p'),
  ("nolog", none),
  ("debug", none)]

/-- The letters of options that are set, the last of the table first. -/
def optionLetters (options : List String) : String :=
  String.ofList (optionTable.reverse.filterMap fun entry =>
    if options.contains entry.1 then entry.2 else none)

/-- All options and whether they are set, in words. -/
def optionReport (options : List String) : String :=
  "Current option settings\n" ++ String.join (optionTable.map fun entry =>
    entry.1 ++ String.ofList (List.replicate (16 - entry.1.length) ' ') ++
      (if options.contains entry.1 then "on\n" else "off\n"))

/-- All options as the commands that set them. -/
def optionCommands (options : List String) : String :=
  String.join (optionTable.map fun entry =>
    "set " ++ (if options.contains entry.1 then "-o " else "+o ") ++ entry.1 ++ "\n")

/-- Options with one more of them set, or no longer set. -/
def withOption (options : List String) (name : String) (isSet : Bool) : List String :=
  let others := options.filter (· ≠ name)
  if isSet then name :: others else others

/-- What arguments make of options: the options that are set then, whether a text is to be carried
out, whether the options are to be shown and how, the arguments left, and whether there are to be
none even if nothing is left. -/
structure OptionReading where
  options : List String
  hasText : Bool
  report : Option Bool
  left : List String
  clears : Bool
  deriving DecidableEq, Repr

/-- Reads the letters of one argument; `calling` tells that the shell is called with it. -/
def OptionReading.letters (calling isSet : Bool) :
    List Char → OptionReading → Except String OptionReading
  | [], r => .ok r
  | 'o' :: rest, r =>
    match r.left with
    | [] => letters calling isSet rest { r with report := some isSet }
    | name :: left =>
      if (optionTable.lookup name).isSome then
        letters calling isSet rest { r with options := withOption r.options name isSet, left }
      else .error ("Illegal option -o " ++ name)
  | c :: rest, r =>
    if calling && c = 'c' then letters calling isSet rest { r with hasText := true }
    else if calling && c = 'l' then letters calling isSet rest r
    else
      match optionTable.find? fun entry => entry.2 = some c with
      | some entry =>
        letters calling isSet rest { r with options := withOption r.options entry.1 isSet }
      | none => .error ("Illegal option -" ++ toString c)

/-- Reads the options in front of the arguments that are left, at most `bound` of them. -/
def OptionReading.read (calling : Bool) :
    (bound : Nat) → OptionReading → Except String OptionReading
  | 0, r => .ok r
  | bound + 1, r =>
    match r.left with
    | [] => .ok r
    | arg :: left =>
      match arg.toList with
      | ['-'] =>
        let quiet := r.options.filter fun name => name ≠ "xtrace" && name ≠ "verbose"
        .ok { r with options := if calling then r.options else quiet, left }
      | ['-', '-'] => .ok { r with left, clears := left.isEmpty }
      | '-' :: letters => do
        OptionReading.read calling bound (← { r with left }.letters calling true letters)
      | '+' :: letters => do
        OptionReading.read calling bound (← { r with left }.letters calling false letters)
      | _ => .ok r

/-- Reads options from arguments. -/
def readOptions (calling : Bool) (options args : List String) : Except String OptionReading :=
  OptionReading.read calling args.length ⟨options, false, none, args, false⟩

/-! ### What a shell is called for -/

/-- What a shell is to carry out. -/
inductive Source
  | text (text : String) (name : String) (args : List String)
  | file (path : String) (args : List String)
  | input (args : List String)
  deriving DecidableEq, Repr

/-- What a shell called by a name with arguments is to carry out, and its options. -/
def sourceOf (name : String) (args : List String) : Except String (Source × List String) := do
  let read ← readOptions true [] args
  let options := read.options
  match read.hasText, read.left with
  | true, [] => .error "-c requires an argument"
  | true, [text] => .ok (.text text name [], options)
  | true, text :: name :: args => .ok (.text text name args, options)
  | false, [] => .ok (.input [], withOption options "stdin" true)
  | false, path :: args =>
    if options.contains "stdin" then .ok (.input (path :: args), options)
    else .ok (.file path args, options)

/-! ### Options of commands -/

/-- Reads the letters of one argument.  The known letters come with whether they have an argument,
which is what is left of the letters or else the next argument. -/
def commandLetters (known : List (Char × Bool)) :
    List Char → List String → Except String (List (Char × String) × List String)
  | [], left => .ok ([], left)
  | c :: rest, left =>
    match known.lookup c with
    | none => .error ("Illegal option -" ++ toString c)
    | some false =>
      (commandLetters known rest left).map fun (more, left) => ((c, "") :: more, left)
    | some true =>
      if !rest.isEmpty then .ok ([(c, String.ofList rest)], left)
      else
        match left with
        | [] => .error ("No arg for -" ++ toString c ++ " option")
        | arg :: left => .ok ([(c, arg)], left)

/-- Reads the options in front of other arguments, at most `bound` of them. -/
def commandOptionsFrom (known : List (Char × Bool)) :
    (bound : Nat) → List String → Except String (List (Char × String) × List String)
  | 0, args => .ok ([], args)
  | bound + 1, args =>
    match args with
    | [] => .ok ([], [])
    | arg :: rest =>
      match arg.toList with
      | ['-'] => .ok ([], args)
      | ['-', '-'] => .ok ([], rest)
      | '-' :: letters => do
        let (found, left) ← commandLetters known letters rest
        let (more, left) ← commandOptionsFrom known bound left
        return (found ++ more, left)
      | _ => .ok ([], args)

/-- Reads the options of a command: letters with their arguments, and the arguments left. -/
def commandOptions (known : List (Char × Bool)) (args : List String) :
    Except String (List (Char × String) × List String) :=
  commandOptionsFrom known args.length args

end CheckMatrix.Shell
