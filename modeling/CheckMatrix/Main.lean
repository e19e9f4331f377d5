/-
The program on a machine.

The working directory is read into a tree, the program is run on it, what it shows is printed, and
what it changed is changed on the machine.  Nothing is decided here: which lines are shown, which
files change and with which code the program ends is all in the value of `runProgram`.
-/
import CheckMatrix.FileTree.Change
import CheckMatrix.Program

namespace CheckMatrix.Main

/-! ### Reading -/

/-- The location that a path leads to from the root directory. -/
def locationOf (path : String) : Location :=
  ((Text.cut (· = '/') path.toList).filter (· ≠ [])).map fun name => .ofText (String.ofList name)

/-- The tree with what stands at a location. -/
def note (t : FileTree) (l : Location) (e : Entry) : FileTree :=
  { t with entries := (l, e) :: t.entries }

/-- The directories above a location. -/
def directoriesAbove (l : Location) : List (Location × Entry) :=
  (List.range l.length).map fun size => (l.take size, .dir)

/-- What every machine has: the programs, and a device that takes everything. -/
def outfit : List (Location × Entry) :=
  let bin := locationOf "usr/bin"
  [(locationOf "usr", .dir), (bin, .dir), (locationOf "bin", .link (.ofText "/usr/bin")),
    (locationOf "dev", .dir), (locationOf "dev/null", .null)] ++
    installedPrograms.map fun name => (bin ++ [.ofText name], .program name)

/-- The entry that stands behind a directory entry of the machine. -/
def entryOf (found : IO.FS.DirEntry) : IO Entry := do
  let metadata ← found.path.symlinkMetadata
  match metadata.type with
  | .dir => return .dir
  | .file => return .file (← IO.FS.readBinFile found.path).toList
  | .symlink => return .link (.ofText (← IO.FS.realPath found.path).toString)
  | .other => return .faulty

/-- Reads everything below the directories that are still to be read. -/
partial def readBelow (t : FileTree) : List IO.FS.DirEntry → IO FileTree
  | [] => return t
  | found :: rest => do
    let e ← try entryOf found catch _ => pure Entry.faulty
    let t := note t (locationOf found.path.toString) e
    if e = .dir then readBelow t ((← found.path.readDir).toList ++ rest) else readBelow t rest

/-- Reads the working directory. -/
def readTree : IO FileTree := do
  let dir ← IO.currentDir
  let here := locationOf dir.toString
  let t : FileTree := ⟨(here, .dir) :: directoriesAbove here ++ outfit, here⟩
  readBelow t (← dir.readDir).toList

/-- The variables of the process, as the system lists them. -/
def readVariables : IO (List (String × String)) := do
  let bytes ← IO.FS.readBinFile "/proc/self/environ"
  return (Text.cut (· = '\x00') (Text.decode bytes.toList)).filterMap fun setting =>
    let name := setting.takeWhile (· ≠ '=')
    if name.length < setting.length then
      some (String.ofList name, String.ofList (setting.drop (name.length + 1)))
    else none

/-! ### Writing -/

/-- Takes an entry away. -/
def takeAway (l : Location) (e : Entry) : IO Unit :=
  if e = .dir then IO.FS.removeDir (Location.shown l) else IO.FS.removeFile (Location.shown l)

/-- Puts an entry in place. -/
def putInPlace (l : Location) (e : Entry) : IO Unit :=
  match e with
  | .dir => IO.FS.createDir (Location.shown l)
  | .file content => IO.FS.writeBinFile (Location.shown l) ⟨content.toArray⟩
  | _ => pure ()

/-- Changes on the machine what differs between two trees. -/
def carryOver (before after : FileTree) : IO Unit := do
  for (l, e) in FileTree.removals before after do
    takeAway l e
  for (l, e) in FileTree.additions before after do
    putInPlace l e

/-- Prints what was shown. -/
def print (shown : Transcript) : IO Unit := do
  for (stream, bytes) in shown do
    let handle ← match stream with
      | .out => IO.getStdout
      | .err => IO.getStderr
    handle.write ⟨bytes.toArray⟩
    handle.flush

end CheckMatrix.Main

/-- Runs the program with the arguments of the command line. -/
def main (args : List String) : IO UInt32 := do
  let before ← CheckMatrix.Main.readTree
  let process : CheckMatrix.ProcessEnv := ⟨← CheckMatrix.Main.readVariables, none⟩
  let ending := CheckMatrix.runProgram (.ofProcess process) args before
  CheckMatrix.Main.print ending.shown
  CheckMatrix.Main.carryOver before ending.tree
  return UInt32.ofNat ending.exitCode
