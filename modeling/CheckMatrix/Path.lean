/-
Paths as they are written.

A path is a row of bytes, mostly those of a text.  Two paths are the same when their parts are:
repeated slashes, a slash at the end and dots behind the first part make no difference, while a
leading dot and double dots do.  Joining and taking the parent work on the bytes, so a path is shown
the way it was put together.
-/
import CheckMatrix.Text.Cut
import CheckMatrix.Text.Packed

namespace CheckMatrix

/-- A path of the file tree, absolute or relative to the working directory. -/
structure Path where
  bytes : List UInt8
  deriving DecidableEq, Repr, Inhabited

namespace Path

/-- The byte between the parts of a path. -/
def slash : UInt8 := 47

/-- The byte that names a directory from within. -/
def dot : UInt8 := 46

/-- The path that is written as a text. -/
def ofText (text : String) : Path :=
  ⟨Text.encode text.toList⟩

/-- The path that a packed text is. -/
def ofPacked (text : String) : Path :=
  ⟨Text.bytesOf text⟩

/-- The path as a packed text. -/
def packed (p : Path) : String :=
  Text.ofBytes p.bytes

/-- The path as it is shown. -/
def shown (p : Path) : String :=
  String.ofList (Text.decode p.bytes)

/-- The path has no bytes. -/
def isEmpty (p : Path) : Bool :=
  p.bytes.isEmpty

/-- A path that starts at the root directory. -/
def isAbsolute (p : Path) : Bool :=
  p.bytes.head? = some slash

/-- A slash stands at the end of the path. -/
def isSlashed (p : Path) : Bool :=
  p.bytes.getLast? = some slash

/-- A path without the slashes at its end. -/
def unslashed (p : Path) : Path :=
  ⟨(p.bytes.reverse.dropWhile (· = slash)).reverse⟩

/-- What stands between the slashes. -/
def fields (p : Path) : List (List UInt8) :=
  Text.cut (· = slash) p.bytes

/-- A field that names nothing behind the first part of a path. -/
def isIdle (field : List UInt8) : Bool :=
  field = [] || field = [dot]

/-- The parts that tell paths apart: a slash for the root directory, a leading dot, and names. -/
def parts (p : Path) : List (List UInt8) :=
  match p.fields with
  | [] => []
  | first :: rest =>
    let names := rest.filter fun field => !isIdle field
    if p.isAbsolute then [slash] :: names
    else if first = [] then names
    else first :: names

/-- Two ways to write one path. -/
def same (p q : Path) : Bool :=
  p.parts = q.parts

/-- The path `p` as seen from `root`: itself when it is absolute. -/
def join (root p : Path) : Path :=
  if p.isAbsolute then p
  else if root.isEmpty || root.isSlashed then ⟨root.bytes ++ p.bytes⟩
  else ⟨root.bytes ++ slash :: p.bytes⟩

/-- The path `p` anchored at `root`; the empty path and the dot are the root itself. -/
def anchor (root p : Path) : Path :=
  if p.isEmpty || p.same ⟨[dot]⟩ then root else root.join p

/-- Fields in reverse order without the idle ones at the front; the first field of the path, the
last of the list, always stays. -/
def trimIdle : List (List UInt8) → List (List UInt8)
  | [] => []
  | [first] => [first]
  | field :: rest => if isIdle field then trimIdle rest else field :: rest

/-- The directory a path lies in, if it has a last part to drop. -/
def parent? (p : Path) : Option Path :=
  match trimIdle p.fields.reverse with
  | [] => none
  | [first] => if first = [] then none else some ⟨[]⟩
  | _ :: rest =>
    match trimIdle rest with
    | [[]] => some ⟨[slash]⟩
    | kept => some ⟨List.intercalate [slash] kept.reverse⟩

end Path

end CheckMatrix
