/-
The tool that makes files look new.

A tree knows no times, so nothing is seen of the time that a file is given; a file that is missing is
made.  Times that cannot be understood, or that come from more than one source, are refused before
any file is looked at.
-/
import CheckMatrix.Machine.Moment
import CheckMatrix.Machine.Tool

namespace CheckMatrix.Tool

/-- The switches of the tool; one that has no letter goes by one that no argument has. -/
def touchSwitches : List Switch := [
  valued 'τ' "time", plain 'c' "no-create", valued 'd' "date", valued 'r' "reference",
  plain 'h' "no-dereference", valued 't' "", plain 'a' "", plain 'f' "", plain 'm' ""]

/-- The switches in front of the first argument that cannot be read. -/
def readableSwitches (known : List Switch) (args : List String) : List (Char × String) :=
  let prefixes := (List.range args.length).filterMap fun bound =>
    (operandsFrom known bound args).toOption
  ((prefixes.getLast?).map Prod.fst).getD []

/-- The words for the two times of a file. -/
def timeWords : List (List String) := [["atime", "access", "use"], ["mtime", "modify"]]

/-- The times of a file that a word stands for by its beginning. -/
def timesNamed (word : String) : List (List String) :=
  match timeWords.find? (·.contains word) with
  | some exact => [exact]
  | none => timeWords.filter (·.any fun name => word.toList.isPrefixOf name.toList)

/-- What is wrong with a switch, if anything: what is said, and whether the way to help is shown. -/
def touchFault? (c : Call) : Char × String → Option (String × Bool)
  | ('t', text) =>
    if Moment.isInDigits text then none
    else some ("invalid date format " ++ c.quoted text, false)
  | ('τ', word) =>
    let fault (kind : String) : String × Bool :=
      let lines := timeWords.map fun names => "\n  - " ++ ", ".intercalate (names.map c.quoted)
      (kind ++ " argument " ++ c.quoted word ++ " for " ++ c.quoted "--time" ++
        "\nValid arguments are:" ++ String.join lines, true)
    match timesNamed word with
    | [] => some (fault "invalid")
    | [_] => none
    | _ => some (fault "ambiguous")
  | _ => none

/-- The file that lends its times is there, and other times can be understood. -/
def sourceFault? (c : Call) (switches : List (Char × String)) (t : FileTree) :
    Option (String × Bool) :=
  let reference := (argumentOf? switches 'r').bind fun word =>
    let sought := if (lettersOf switches).contains 'h' then Pursuit.entry else .goal
    let reason := match t.resolve (.ofPacked word) sought with
      | .ok (.found ..) => none
      | .ok (.missing ..) => some FileError.notFound
      | .error cause => some cause
    reason.map fun cause =>
      "failed to get attributes of " ++ c.shellWord word ++ ": " ++ cause.words
  let date := (argumentOf? switches 'd').bind fun text =>
    if Moment.isUnderstood text then none else some ("invalid date format " ++ c.quoted text)
  let isDouble := ['r', 'd'].any (lettersOf switches).contains
  if (lettersOf switches).contains 't' && isDouble then
    some ("cannot specify times from more than one source", true)
  else (reference.or date).map fun fault => (fault, false)

/-- What is wrong with the switches, in the order in which it is found out. -/
def switchFault? (c : Call) (t : FileTree) : Option (String × Bool) :=
  match operands touchSwitches c.args with
  | .error fault =>
    ((readableSwitches touchSwitches c.args).findSome? (touchFault? c)).or (some (fault, true))
  | .ok (switches, words) =>
    (switches.findSome? (touchFault? c)).or <| (sourceFault? c switches t).or <|
      if words.isEmpty then some ("missing file operand", true) else none

/-- Gives a file new times, making it if it is missing.  The answer is what is said if that is
refused. -/
def renew (letters : List Char) (word : String) (t : FileTree) :
    Except (String × FileError) FileTree :=
  let path := Path.ofPacked word
  let isMade := !letters.contains 'c' && !letters.contains 'h'
  let settle : Except (String × FileError) FileTree :=
    let refused (cause : FileError) : Except (String × FileError) FileTree :=
      if letters.contains 'c' && cause = .notFound then .ok t
      else .error ("setting times of", cause)
    match t.resolve path (if letters.contains 'h' then .entry else .goal) with
    | .ok (.found _ (.program _)) => refused .permissionDenied
    | .ok (.found ..) => .ok t
    | .ok (.missing ..) => refused .notFound
    | .error cause => refused cause
  match if isMade then t.writable path else .error .isDirectory with
  | .ok (some l) => .ok (if (t.get? l).isNone then t.put l (.file []) else t)
  | .ok none => .ok t
  | .error .isDirectory => settle
  | .error cause => .error ("cannot touch", cause)

/-- Gives files new times.  A hyphen stands for the standard output. -/
def touch : Tool := fun c => do
  match switchFault? c (← get).tree with
  | some (fault, true) => misused fault c
  | some (fault, false) => do
    c.blame fault
    return 1
  | none =>
    let (switches, words) := (operands touchSwitches c.args).toOption.getD ([], [])
    let letters := lettersOf switches
    words.foldlM (fun code word => do
      let t := (← get).tree
      let made := if word = "-" then
          if (c.handle? 1).isNone && !letters.contains 'c' then
            .error ("setting times of", .badHandle)
          else .ok t
        else renew letters word t
      match made with
      | .ok made =>
        if made.entries.length ≠ t.entries.length then modify (·.withTree made)
        return code
      | .error (act, cause) =>
        c.blame (act ++ " " ++ c.shellWord word ++ ": " ++ cause.words)
        return 1) 0

end CheckMatrix.Tool
