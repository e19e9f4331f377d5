/-
Files to be removed when a run ends.

A guard collects paths.  Cleaning up tries to remove each of them once, in the order in which they
were registered, goes on past failures, and leaves the guard empty.  A file that was never made is
no failure.

`Custody` is a guard together with the files it is over, and `Custody.act` what happens to the two:
paths are registered, the guard cleans up or is dropped, and others change the files meanwhile.
-/
import CheckMatrix.Distinct
import CheckMatrix.FileTree.Operations

namespace CheckMatrix

/-- The paths to remove, without repetition. -/
structure LogGuard where
  paths : List Path
  deriving DecidableEq, Repr

namespace LogGuard

/-- A guard over nothing. -/
def empty : LogGuard := ⟨[]⟩

/-- The guard with one more path. -/
def register (g : LogGuard) (p : Path) : LogGuard :=
  ⟨addNew Path.same g.paths p⟩

/-- What is left to do and to report after removing one path. -/
def removeOne (state : FileTree × List (Path × FileError)) (p : Path) :
    FileTree × List (Path × FileError) :=
  match state.1.removeFile p with
  | .ok after => (after, state.2)
  | .error .notFound => state
  | .error e => (state.1, state.2 ++ [(p, e)])

/-- The tree without the registered files, and those that could not be removed. -/
def cleanup (g : LogGuard) (t : FileTree) : FileTree × List (Path × FileError) :=
  g.paths.foldl removeOne (t, [])

/-- What is said about a file that stays when a guard is given up without a cleanup. -/
def dropNotice (failure : Path × FileError) : String :=
  "Failed to remove log file " ++ failure.1.shown ++ ": " ++ failure.2.message

end LogGuard

/-! ### A guard and the files -/

/-- What is done to a guard, or by others to the files. -/
inductive GuardAct
  | register (p : Path)
  | cleanup
  | drop
  | others (after : FileTree)

/-- What an act gives back, or prints line by line. -/
inductive GuardReply
  | silent
  | returned (failures : List (Path × FileError))
  | printed (lines : List String)
  deriving DecidableEq, Repr

/-- The files and the guard over some of them. -/
structure Custody where
  tree : FileTree
  guard : LogGuard

namespace Custody

/-- What one act leaves and says.  A guard that is dropped is followed by a new one. -/
def act (c : Custody) : GuardAct → Custody × GuardReply
  | .register p => (⟨c.tree, c.guard.register p⟩, .silent)
  | .cleanup =>
    let (t, failures) := c.guard.cleanup c.tree
    (⟨t, .empty⟩, .returned failures)
  | .drop =>
    let (t, failures) := c.guard.cleanup c.tree
    (⟨t, .empty⟩, .printed (failures.map LogGuard.dropNotice))
  | .others after => (⟨after, c.guard⟩, .silent)

/-- What is left after some acts. -/
def after (c : Custody) (acts : List GuardAct) : Custody :=
  acts.foldl (fun c a => (c.act a).1) c

end Custody

end CheckMatrix
