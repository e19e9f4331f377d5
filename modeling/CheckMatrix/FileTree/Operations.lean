/-
What programs do to files.

Each operation takes a path, finds out where it leads, and reads or changes that one location.  An
operation that is refused leaves the tree alone; only `makeDirs`, which makes directories one after
the other, may have made some before it is refused.

Where a file is removed, or a directory made or removed, slashes at the end of the path are left out
when it is followed, but they count towards its length.
-/
import CheckMatrix.FileTree.Resolve

namespace CheckMatrix.FileTree

/-! ### Questions -/

/-- The path leads to a directory. -/
def isDirectory (t : FileTree) (p : Path) : Bool :=
  match t.find p with
  | .ok (_, .dir) => true
  | _ => false

/-- The path leads to a regular file. -/
def isFile (t : FileTree) (p : Path) : Bool :=
  match t.find p with
  | .ok (_, .file _) => true
  | .ok (_, .program _) => true
  | .ok (_, .faulty) => true
  | _ => false

/-- A regular file is there already, or a symbolic link that leads nowhere. -/
def isTaken (t : FileTree) (p : Path) : Bool :=
  t.isFile p ||
    match t.find p, t.resolve p .entry with
    | .error .notFound, .ok (.found ..) => true
    | _, _ => false

/-- The path leads to anything. -/
def pathExists (t : FileTree) (p : Path) : Bool :=
  match t.find p with
  | .ok _ => true
  | .error _ => false

/-- The absolute path, without links and dots, of what a path leads to.  The path is followed name
by name, so it may have any length. -/
def canonical (t : FileTree) (p : Path) : Except FileError Path :=
  match t.trace p .goal with
  | .ok (.found l _) => .ok (Location.path l)
  | .ok (.missing ..) => .error .notFound
  | .error e => .error e

/-- The bytes of a file. -/
def readFile (t : FileTree) (p : Path) : Except FileError (List UInt8) :=
  match t.find p with
  | .ok (_, .file content) => .ok content
  | .ok (_, .null) => .ok []
  | .ok (_, .program _) => .error .permissionDenied
  | .ok (_, .faulty) => .error .inputOutput
  | .ok (_, _) => .error .isDirectory
  | .error e => .error e

/-- The text of a file, whatever bytes it holds. -/
def readLossy (t : FileTree) (p : Path) : Except FileError String :=
  (t.readFile p).map fun content => String.ofList (Text.decode content)

/-- The text of a file. -/
def readText (t : FileTree) (p : Path) : Except FileError String :=
  match t.readFile p with
  | .ok content =>
    if Text.isText content then .ok (String.ofList (Text.decode content)) else .error .notText
  | .error e => .error e

/-! ### Files -/

/-- Where the content of a file goes that is opened for writing: a location, or nowhere for the
null device. -/
def writable (t : FileTree) (p : Path) : Except FileError (Option Location) :=
  match t.resolve p .file with
  | .error e => .error e
  | .ok (.missing dir name) => .ok (some (dir ++ [name]))
  | .ok (.found _ .null) => .ok none
  | .ok (.found l (.file _)) => .ok (some l)
  | .ok (.found l .faulty) => .ok (some l)
  | .ok (.found _ (.program _)) => .error .permissionDenied
  | .ok (.found _ _) => .error .isDirectory

/-- The tree with a file that holds the given bytes and nothing else. -/
def writeFile (t : FileTree) (p : Path) (content : List UInt8) : Except FileError FileTree :=
  match t.writable p with
  | .error e => .error e
  | .ok none => .ok t
  | .ok (some l) => .ok (t.put l (.file content))

/-- The tree without a file.  A symbolic link is removed itself, a directory is not removed. -/
def removeFile (t : FileTree) (p : Path) : Except FileError FileTree :=
  let bare := p.unslashed
  if p.bytes.length > maxPath ∧ !p.bytes.contains 0 then .error .nameTooLong
  else if p.isSlashed && bare.isEmpty then .error .isDirectory
  else
    match t.resolve bare .entry with
    | .error e => .error e
    | .ok (.missing ..) => .error .notFound
    | .ok (.found _ .dir) => .error .isDirectory
    | .ok (.found l _) => if p.isSlashed then .error .notDirectory else .ok (t.erase l)

/-! ### Directories -/

/-- The tree with one more directory. -/
def makeDir (t : FileTree) (p : Path) : Except FileError FileTree :=
  let bare := p.unslashed
  if p.bytes.length > maxPath ∧ !p.bytes.contains 0 then .error .nameTooLong
  else if p.isSlashed && bare.isEmpty then .error .alreadyExists
  else
    match t.resolve bare .entry with
    | .error e => .error e
    | .ok (.found ..) => .error .alreadyExists
    | .ok (.missing dir name) => .ok (t.put (dir ++ [name]) .dir)

/-- Makes a directory and the directories above it that are missing, at most `depth` of them, and
says whether it is there in the end. -/
def makeDirsFrom : (depth : Nat) → FileTree → Path → FileTree × Except FileError Unit
  | depth, t, p =>
    if p.isEmpty then (t, .ok ())
    else
      match t.makeDir p with
      | .ok made => (made, .ok ())
      | .error .notFound =>
        match depth, p.parent? with
        | depth + 1, some parent =>
          match makeDirsFrom depth t parent with
          | (above, .error e) => (above, .error e)
          | (above, .ok ()) =>
            match above.makeDir p with
            | .ok made => (made, .ok ())
            | .error e => (above, if above.isDirectory p then .ok () else .error e)
        | _, _ => (t, .error .notFound)
      | .error e => (t, if t.isDirectory p then .ok () else .error e)

/-- Makes a directory and those above it.  A path has no more directories above it than fields. -/
def makeDirs (t : FileTree) (p : Path) : FileTree × Except FileError Unit :=
  makeDirsFrom p.fields.length t p

/-- The tree without an empty directory. -/
def removeDir (t : FileTree) (p : Path) : Except FileError FileTree :=
  if p.bytes.length > maxPath ∧ !p.bytes.contains 0 then .error .nameTooLong
  else
    match (hops p).reverse.find? (· ≠ .slash) with
    | some .here => .error .invalidArgument
    | some .up => .error .notEmpty
    | _ =>
      match t.resolve p.unslashed .entry with
      | .error e => .error e
      | .ok (.missing ..) => .error .notFound
      | .ok (.found l .dir) => if (t.children l).isEmpty then .ok (t.erase l) else .error .notEmpty
      | .ok (.found _ _) => .error .notDirectory

end CheckMatrix.FileTree
