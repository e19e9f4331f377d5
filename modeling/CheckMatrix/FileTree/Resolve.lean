/-
Where a path leads.

A path is followed part by part from the root directory or the working directory.  A symbolic link
on the way is replaced by its target, at most forty times; the one at the very end only on request.
`follow` walks the parts of one path and hands a link over to its argument `jump`, and `walk` closes
that knot with one jump fewer each time, so both are structural.

A path whose last part does not exist leads to the place where it could be created.  Where a file
is to be made, a slash behind the last name, or behind the last name in the target of a link, asks
for a directory, whatever is there.
-/
import CheckMatrix.FileTree.Basic
import CheckMatrix.FileTree.FileError

namespace CheckMatrix

/-- A part of a path on the way: a name, the directory above, the directory itself, or the slash
that makes the part before it a directory. -/
inductive Hop
  | name (name : Name)
  | up
  | here
  | slash
  deriving DecidableEq, Repr

/-- What a path leads to. -/
inductive Target
  | found (at_ : Location) (entry : Entry)
  | missing (dir : Location) (name : Name)
  deriving DecidableEq, Repr

/-- What a path is followed for: what it leads to, the entry under its last name even if that is a
symbolic link, or the file that is to be there. -/
inductive Pursuit
  | goal
  | entry
  | file
  deriving DecidableEq, Repr

namespace FileTree

/-- The number of symbolic links that one path may lead through. -/
def maxLinks : Nat := 40

/-- The longest name of an entry, in bytes. -/
def maxName : Nat := 255

/-- The longest path, in bytes. -/
def maxPath : Nat := 4095

/-- The hop that a field between slashes stands for. -/
def hop (field : List UInt8) : Hop :=
  if field = [] then .slash
  else if field = [Path.dot] then .here
  else if field = [Path.dot, Path.dot] then .up
  else .name ⟨field⟩

/-- The hops of a path. -/
def hops (p : Path) : List Hop :=
  p.fields.map hop

/-- Where a path starts when it is met in a directory. -/
def origin (p : Path) (dir : Location) : Location :=
  if p.isAbsolute then [] else dir

/-- Follows hops from a directory; `jump` goes on behind a symbolic link. -/
def follow (t : FileTree) (pursuit : Pursuit)
    (jump : Location → List Hop → Except FileError Target) :
    Location → List Hop → Except FileError Target
  | dir, [] => .ok (.found dir .dir)
  | dir, .here :: rest => follow t pursuit jump dir rest
  | dir, .slash :: rest => follow t pursuit jump dir rest
  | dir, .up :: rest => follow t pursuit jump dir.dropLast rest
  | dir, .name name :: rest =>
    let isLast := rest.all (· = .slash)
    if isLast && !rest.isEmpty && pursuit = .file then .error .isDirectory
    else if name.bytes.length > maxName then .error .nameTooLong
    else
      let child := dir ++ [name]
      match t.get? child with
      | none => if isLast then .ok (.missing dir name) else .error .notFound
      | some .dir => follow t pursuit jump child rest
      | some (.link target) =>
        if rest.isEmpty && pursuit = .entry then .ok (.found child (.link target))
        else if target.isEmpty then .error .notFound
        else jump (origin target dir) (hops target ++ rest)
      | some entry => if rest.isEmpty then .ok (.found child entry) else .error .notDirectory

/-- Follows hops through at most so many symbolic links. -/
def walk (t : FileTree) (pursuit : Pursuit) :
    (links : Nat) → Location → List Hop → Except FileError Target
  | 0 => t.follow pursuit fun _ _ => .error .tooManyLinks
  | links + 1 => t.follow pursuit (t.walk pursuit links)

/-- What a path of any length leads to. -/
def trace (t : FileTree) (p : Path) (pursuit : Pursuit) : Except FileError Target :=
  if p.bytes.contains 0 then .error .nulInName
  else if p.isEmpty then .error .notFound
  else t.walk pursuit maxLinks (origin p t.cwd) (hops p)

/-- What a path leads to. -/
def resolve (t : FileTree) (p : Path) (pursuit : Pursuit) : Except FileError Target :=
  if p.bytes.length > maxPath ∧ !p.bytes.contains 0 then .error .nameTooLong
  else t.trace p pursuit

/-- The entry that a path leads to, through a symbolic link at its end. -/
def find (t : FileTree) (p : Path) : Except FileError (Location × Entry) :=
  match t.resolve p .goal with
  | .error e => .error e
  | .ok (.missing ..) => .error .notFound
  | .ok (.found l e) => .ok (l, e)

end FileTree

end CheckMatrix
