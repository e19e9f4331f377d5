/-
The world in which programs run.

A program reads and writes through handles: the terminal, a file that was opened, or an end of a
pipe.  An opened file remembers how far it was read or written, and whoever shares the handle shares
that.  The world is everything that a program can change, together with what the programs at work
know of each other: which ends of pipes they hold, which signals they act upon, and how they ended.
The process that checks a project has a number in it, and interrupting that process is noticed once:
the notice is shown at once, and the command that is running goes on.
-/
import CheckMatrix.FileTree.Operations
import CheckMatrix.Machine.Buffer
import CheckMatrix.Machine.Signal
import CheckMatrix.Run.Runner

namespace CheckMatrix

/-- What a program can read from or write to. -/
inductive Handle
  | terminal (stream : Stream)
  | file (index : Nat)
  | source (pipe : Nat)
  | sink (pipe : Nat)
  | directory
  | nowhere
  deriving DecidableEq, Repr

/-- A file that was opened: where it is, how many of its bytes are behind, whether everything that
is written goes to its end, and the bytes ahead if they were looked at before. -/
structure OpenFile where
  at_ : Location
  offset : Nat
  atEnd : Bool
  ahead : Option (List UInt8)
  deriving DecidableEq, Repr

/-- What happens to the bytes of a file that is opened for writing. -/
inductive Opening
  | empty
  | addTo
  | writeOver
  deriving DecidableEq, Repr

/-- What is known of a process: its number, the handles that it holds, the signals that it acts upon
and those that do nothing to it, and how it ended if it has. -/
structure ProcessRecord where
  pid : Nat
  held : List Handle
  caught : List Nat
  ignored : List Nat
  ended : Option Exit
  deriving DecidableEq, Repr

/-- Everything that a program can change.  `late` are the files that were written to since the tree
was looked at, and `shown` comes in reverse order; `unwritten` tells which processes wanted to write
where nothing can be written, and `posted` are signals on their way, each with the number of its
process.  The clock counts nanoseconds. -/
structure World where
  base : FileTree
  late : List (Location × Buffer)
  files : List (Nat × OpenFile)
  pipes : List (Nat × Buffer)
  nextHandle : Nat
  shown : Transcript
  notice : Transcript
  interrupted : Bool
  unwritten : List (Nat × FileError)
  processes : List ProcessRecord
  posted : List (Nat × Nat)
  clock : Nat
  nextPid : Nat

namespace World

/-- The number of the process that checks a project. -/
def checkerPid : Nat := 1000

/-- A world in which nothing has run. -/
def start (tree : FileTree) (notice : Transcript) : World where
  base := tree
  late := []
  files := []
  pipes := []
  nextHandle := 0
  shown := []
  notice
  interrupted := false
  unwritten := []
  processes := []
  posted := []
  clock := 0
  nextPid := checkerPid + 1

/-! ### The tree -/

/-- The tree as it stands. -/
def tree (w : World) : FileTree :=
  w.late.foldl (fun t entry => t.put entry.1 (.file entry.2.content)) w.base

/-- The world with another tree. -/
def withTree (w : World) (tree : FileTree) : World :=
  { w with
    base := tree, late := [],
    files := w.files.map fun (index, f) => (index, { f with ahead := none }) }

/-- The world as seen from another directory. -/
def within (w : World) (l : Location) : World :=
  { w with base := w.base.within l }

/-- The world with a file at hand that is to be written to. -/
def atHand (w : World) (l : Location) : World :=
  if (w.late.lookup l).isSome then w
  else
    match w.base.get? l with
    | some (.file content) => { w with late := (l, .ofBytes content) :: w.late }
    | _ => w

/-! ### Processes -/

/-- What is known of a process. -/
def process? (w : World) (pid : Nat) : Option ProcessRecord :=
  w.processes.find? (·.pid = pid)

/-- The world with one more process. -/
def enrol (w : World) (m : ProcessRecord) : World :=
  { w with processes := w.processes ++ [m] }

/-- The world with something else known of a process. -/
def changeProcess (w : World) (pid : Nat) (change : ProcessRecord → ProcessRecord) : World :=
  { w with processes := w.processes.map fun m => if m.pid = pid then change m else m }

/-- The world in which a process has ended, which holds nothing any more. -/
def conclude (w : World) (pid : Nat) (exit_ : Exit) : World :=
  w.changeProcess pid fun m =>
    { m with held := [], caught := [], ended := m.ended.or (some exit_) }

/-- The world in which a process is forgotten. -/
def dismiss (w : World) (pid : Nat) : World :=
  { w with processes := w.processes.filter (·.pid ≠ pid) }

/-- How a process ended, if it has. -/
def ending? (w : World) (pid : Nat) : Option Exit :=
  (w.process? pid).bind ProcessRecord.ended

/-- Somebody holds a handle. -/
def isHeld (w : World) (h : Handle) : Bool :=
  w.processes.any fun m => m.held.contains h

/-- A number for a new process. -/
def newPid (w : World) : World × Nat :=
  ({ w with nextPid := w.nextPid + 1 }, w.nextPid)

/-- Interrupts the process that checks a project. -/
def interrupt (w : World) : World :=
  if w.interrupted then w
  else { w with interrupted := true, shown := w.notice.reverse ++ w.shown }

/-- What a signal does to a process. -/
inductive Effect
  | nothing
  | action
  | death
  deriving DecidableEq, Repr

/-- What a signal does to a process: some do nothing at all, and one always ends it. -/
def effectOn (w : World) (pid signal : Nat) : Effect :=
  match w.process? pid with
  | none => .nothing
  | some m =>
    if m.ended.isSome then .nothing
    else if signal = Signal.kill then .death
    else if m.ignored.contains signal then .nothing
    else if m.caught.contains signal then .action
    else if Signal.isHarmless signal then .nothing
    else .death

/-- Sends a signal to a process. -/
def post (w : World) (pid signal : Nat) : World :=
  match w.effectOn pid signal with
  | .nothing => w
  | .action => { w with posted := w.posted ++ [(pid, signal)] }
  | .death => w.conclude pid (.killed signal)

/-- Remembers that a process wanted to write where nothing can be written. -/
def noteUnwritten (w : World) (pid : Nat) (cause : FileError) : World :=
  { w with unwritten := (pid, cause) :: w.unwritten.filter (·.1 ≠ pid) }

/-! ### Opening -/

/-- A handle for a location. -/
def open_ (w : World) (at_ : Location) (atEnd : Bool) : World × Handle :=
  let files := w.files.filter fun entry => w.isHeld (.file entry.1)
  ({ w with files := (w.nextHandle, ⟨at_, 0, atEnd, none⟩) :: files, nextHandle := w.nextHandle + 1 },
    .file w.nextHandle)

/-- Opens a file for writing. -/
def openToWrite (w : World) (p : Path) (opening : Opening) : Except FileError (World × Handle) :=
  match w.tree.writable p with
  | .error e => .error e
  | .ok none => .ok (w, .nowhere)
  | .ok (some l) =>
    let content := match w.tree.get? l with
      | some (.file old) => if opening = Opening.empty then [] else old
      | _ => []
    .ok ((w.withTree (w.tree.put l (.file content))).open_ l (opening = Opening.addTo))

/-- Opens a file for reading. -/
def openToRead (w : World) (p : Path) : Except FileError (World × Handle) :=
  match w.tree.find p with
  | .ok (_, .dir) => .ok (w, .directory)
  | .ok (_, .null) => .ok (w, .nowhere)
  | .ok (l, .file _) => .ok (w.open_ l false)
  | .ok (l, .faulty) => .ok (w.open_ l false)
  | .ok _ => .error .permissionDenied
  | .error e => .error e

/-- A new pipe that holds some bytes. -/
def newPipe (w : World) (bytes : List UInt8) : World × Nat :=
  let pipes := w.pipes.filter fun entry =>
    w.isHeld (.source entry.1) || w.isHeld (.sink entry.1)
  ({ w with pipes := (w.nextHandle, .ofBytes bytes) :: pipes, nextHandle := w.nextHandle + 1 },
    w.nextHandle)

/-! ### Writing -/

/-- The bytes that a pipe holds before its writers have to wait. -/
def pipeCapacity : Nat := 65536

/-- What a pipe holds. -/
def pipeSize (w : World) (pipe : Nat) : Nat :=
  ((w.pipes.lookup pipe).map Buffer.size).getD 0

/-- The world with something else in a pipe. -/
def changePipe (w : World) (pipe : Nat) (change : Buffer → Buffer) : World :=
  { w with pipes := w.pipes.map fun entry =>
      if entry.1 = pipe then (entry.1, change entry.2) else entry }

/-- The world with something else remembered of an opened file. -/
def changeFile (w : World) (index : Nat) (change : OpenFile → OpenFile) : World :=
  { w with files := w.files.map fun entry =>
      if entry.1 = index then (entry.1, change entry.2) else entry }

/-- Bytes put over others at an offset; what is missing in front of them is filled with zeros. -/
def overwrite (old : List UInt8) (offset : Nat) (bytes : List UInt8) : List UInt8 :=
  old.take offset ++ List.replicate (offset - old.length) 0 ++ bytes ++
    old.drop (offset + bytes.length)

/-- Writes bytes to an opened file.  A file that was removed in the meantime takes none. -/
def writeFile (w : World) (index : Nat) (bytes : List UInt8) : World :=
  match w.files.lookup index with
  | none => w
  | some f =>
    let w := w.atHand f.at_
    match w.late.lookup f.at_ with
    | none => w
    | some old =>
      let offset := if f.atEnd then old.size else f.offset
      let new := if offset = old.size then old.push bytes
        else .ofBytes (overwrite old.content offset bytes)
      { w with
        late := (f.at_, new) :: w.late.filter (·.1 ≠ f.at_),
        files := w.files.map fun (other, g) =>
          let g := if g.at_ = f.at_ then { g with ahead := none } else g
          (other, if other = index then { g with offset := offset + bytes.length } else g) }

/-- What comes of writing. -/
inductive Written
  | done
  | broken
  | refused (cause : FileError)
  deriving DecidableEq, Repr

/-- Writes bytes, if they can be written: a pipe that nobody reads from is broken. -/
def write (w : World) (h : Option Handle) (bytes : List UInt8) : World × Written :=
  if bytes.isEmpty then (w, .done)
  else
    match h with
    | some (.terminal stream) => ({ w with shown := (stream, bytes) :: w.shown }, .done)
    | some (.sink pipe) =>
      if w.isHeld (.source pipe) then (w.changePipe pipe (·.push bytes), .done) else (w, .broken)
    | some (.file index) => (w.writeFile index bytes, .done)
    | some .nowhere => (w, .done)
    | _ => (w, .refused .badHandle)

/-! ### Reading -/

/-- What is ahead in an opened file. -/
def lookAhead (w : World) (index : Nat) (f : OpenFile) : World × Except FileError (List UInt8) :=
  match f.ahead with
  | some bytes => (w, .ok bytes)
  | none =>
    match w.tree.get? f.at_ with
    | some (.file content) =>
      let bytes := content.drop f.offset
      (w.changeFile index fun f => { f with ahead := some bytes }, .ok bytes)
    | some .faulty => (w, .error .inputOutput)
    | _ => (w, .ok [])

/-- What can be read at once. -/
def look (w : World) : Option Handle → World × Except FileError (List UInt8)
  | some (.source pipe) => (w, .ok (((w.pipes.lookup pipe).map Buffer.content).getD []))
  | some (.file index) =>
    match w.files.lookup index with
    | some f => w.lookAhead index f
    | none => (w, .ok [])
  | some .directory => (w, .error .isDirectory)
  | some (.sink _) => (w, .error .badHandle)
  | some _ => (w, .ok [])
  | none => (w, .error .badHandle)

/-- Goes on behind so many bytes that were left to read. -/
def skip (w : World) (h : Option Handle) (count : Nat) : World :=
  match h with
  | some (.source pipe) => w.changePipe pipe (·.drop count)
  | some (.file index) => w.changeFile index fun f =>
    { f with offset := f.offset + count, ahead := f.ahead.map (·.drop count) }
  | _ => w

end World

end CheckMatrix
