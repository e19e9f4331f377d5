/-
The working directory of a shell.

A shell keeps the path by which it came to its working directory.  Two dots lead back along that
path, whatever links it leads through, unless the place itself is asked for.
-/
import CheckMatrix.Shell.Memory

namespace CheckMatrix.Shell

/-- The names in a path, without those that two dots take back. -/
def namesAlong (start : List String) (path : String) : List String :=
  let fields := (Text.cut (· = '/') path.toList).map String.ofList
  (fields.foldl (fun names field =>
    if field = "" ∨ field = "." then names
    else if field = ".." then names.drop 1
    else field :: names) start.reverse).reverse

/-- What a path begins with: nothing, one slash or exactly two. -/
def rootOf (path : String) : String :=
  match path.toList with
  | '/' :: '/' :: '/' :: _ => "/"
  | '/' :: '/' :: _ => "//"
  | '/' :: _ => "/"
  | _ => ""

/-- Where a path leads from the path of a directory, without dots in it. -/
def pathAlong (here path : String) : String :=
  let root := rootOf path
  if root.isEmpty then rootOf here ++ "/".intercalate (namesAlong (namesAlong [] here) path)
  else root ++ "/".intercalate (namesAlong [] path)

/-- The options that tell whether links are followed to the place itself. -/
def wantsPlace (options : List (Char × String)) : Bool :=
  options.getLast?.map Prod.fst = some 'P'

/-- Sets a variable and has other programs see it. -/
def assignExported (name value : String) : Act Unit := do
  assignVariable name value
  modify fun s =>
    { s with vars := s.vars.map fun v => if v.name = name then { v with exported := true } else v }

/-- Goes to a directory.  The answer tells whether it is one. -/
def enter (isPlace : Bool) (path : String) : Act Bool := do
  let s ← get
  let goal := if isPlace then path else pathAlong s.here path
  match s.world.tree.find (.ofPacked goal) with
  | .ok (l, .dir) =>
    let here := if isPlace then (Location.path l).packed else goal
    set { s with here, world := s.world.within l }
    assignExported "OLDPWD" s.here
    assignExported "PWD" here
    return true
  | _ => return false

/-- A path begins with a slash or with dots, so that it is not looked for anywhere else. -/
def isAnchored (path : String) : Bool :=
  let fields := (Text.cut (· = '/') path.toList).map String.ofList
  path.startsWith "/" || fields.head? = some "." || fields.head? = some ".."

/-- Changes the working directory.  A path that is not anchored is looked for in the directories
that a variable lists. -/
def changeDirectory (args : List String) : Act Unit := do
  let (options, words) ← optionsOf [('L', false), ('P', false)] args
  let s ← get
  let goal := match words with
    | [] => (s.held? "HOME").getD ""
    | word :: _ => if word = "-" then (s.held? "OLDPWD").getD "" else word
  let goal := if goal.isEmpty then "." else goal
  let places := if isAnchored goal then [] else
    match s.held? "CDPATH" with
    | some list => (Text.cut (· = ':') list.toList).map String.ofList
    | none => []
  let place := places.find? fun dir =>
    s.world.tree.isDirectory (.ofPacked (if dir.isEmpty then goal else dir ++ "/" ++ goal))
  let dir := place.getD ""
  let found := if dir.isEmpty then goal else dir ++ "/" ++ goal
  if !(← enter (wantsPlace options) found) then giveUp ("can't cd to " ++ goal)
  if words.head? = some "-" ∨ !dir.isEmpty then say ((← get).here ++ "\n")
  setStatus 0

/-- Shows the working directory. -/
def showDirectory (args : List String) : Act Unit := do
  let (options, _) ← optionsOf [('L', false), ('P', false)] args
  let s ← get
  say ((if wantsPlace options then (Location.path s.world.base.cwd).packed else s.here) ++ "\n")
  setStatus 0

end CheckMatrix.Shell
