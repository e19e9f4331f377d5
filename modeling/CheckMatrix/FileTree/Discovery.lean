/-
Sub-directories as values of an axis.

A directory is searched for directories, or links to some, whose name is a text that does not start
with a dot.  Each is named by the path of the directory searched, as it was written, and its own
name, in ascending order.
-/
import CheckMatrix.FileTree.Operations

namespace CheckMatrix.FileTree

/-- The last name of a location, if it is a text. -/
def textName? (l : Location) : Option String :=
  (l.getLast?.filter fun name => Text.isText name.bytes).map Name.shown

/-- The names of the visible sub-directories at a location that the path `base` leads to. -/
def subdirNames (t : FileTree) (base : Path) (l : Location) : List String :=
  (((t.children l).filterMap textName?).filter fun name =>
    t.isDirectory (base.join (.ofText name)) && name.toList.head? ≠ some '.').mergeSort fun a b => a ≤ b

/-- The sub-directories of `dir`, seen from `root`.  If it is no directory, the path that leads
nowhere is the answer. -/
def listSubdirs (t : FileTree) (root : Path) (dir : String) : Except Path (List String) :=
  let base := root.join (.ofText dir)
  match t.find base with
  | .ok (l, .dir) =>
    .ok ((t.subdirNames base l).map fun name => (Path.ofText dir).unslashed.shown ++ "/" ++ name)
  | _ => .error base

end CheckMatrix.FileTree
