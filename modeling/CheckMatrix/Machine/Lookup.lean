/-
Where programs are found.

A name with a slash is a path; any other name is looked for in the directories that a variable
lists.  A file that cannot be run is passed over, but remembered as the reason when nothing better
is found.
-/
import CheckMatrix.Machine.Tools

namespace CheckMatrix

/-- The names of the shell. -/
def shellNames : List String := ["sh", "dash"]

/-- The programs that a machine has: a shell and a few tools.  No other program is found. -/
def installedPrograms : List String :=
  shellNames ++ Tool.table.map Prod.fst

/-- Where programs are looked for when no variable says it. -/
def defaultSearchPath : String := "/bin:/usr/bin"

/-- The directories where programs are looked for. -/
def searchPath (env : List (String × String)) : List String :=
  (Text.cut (· = ':') ((env.lookup "PATH").getD defaultSearchPath).toList).map String.ofList

/-- The program that a path leads to. -/
def programAt (t : FileTree) (path : String) : Except FileError String :=
  match t.find (.ofPacked path) with
  | .ok (_, .program name) => .ok name
  | .ok _ => .error .permissionDenied
  | .error e => .error e

/-- The first program of a name in some directories; `reason` is why there may be none. -/
def searchProgram (t : FileTree) (name : String) : (reason : FileError) → List String →
    Except FileError String
  | reason, [] => .error reason
  | reason, dir :: rest =>
    match programAt t (if dir.isEmpty then name else dir ++ "/" ++ name) with
    | .ok found => .ok found
    | .error .permissionDenied => searchProgram t name .permissionDenied rest
    | .error .notFound => searchProgram t name reason rest
    | .error .notDirectory => searchProgram t name reason rest
    | .error e => .error e

/-- The program of a name. -/
def findProgram (t : FileTree) (env : List (String × String)) (name : String) :
    Except FileError String :=
  if name.isEmpty then .error .notFound
  else if name.toList.contains '/' then programAt t name
  else searchProgram t name .notFound (searchPath env)

/-- The program that a call is about, if it can be called with so many arguments. -/
def Call.program? (c : Call) (t : FileTree) : Except FileError String :=
  (findProgram t c.env c.name).bind fun program =>
    if c.isTooLong then .error .tooManyArguments else .ok program

end CheckMatrix
