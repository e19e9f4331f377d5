/-
What differs between two trees.

A location has changed when something else stands there than before.  Put in order, the changes can
be carried out one after the other: what goes is taken away from the inside out, and what comes is
put in place from the outside in.
-/
import CheckMatrix.FileTree.Basic

namespace CheckMatrix.FileTree

/-- The locations at which two trees differ. -/
def changed (before after : FileTree) : List Location :=
  (((before.entries ++ after.entries).map Prod.fst).eraseDups).filter fun l =>
    before.get? l ≠ after.get? l

/-- Locations with those further inside first. -/
def insideOut (locations : List Location) : List Location :=
  locations.mergeSort fun a b => b.length ≤ a.length

/-- What has to be taken away: everything that changed, except directories and files that only get
another content. -/
def removals (before after : FileTree) : List (Location × Entry) :=
  (insideOut (changed before after)).filterMap fun l =>
    match before.get? l, after.get? l with
    | some (.file _), some (.file _) => none
    | some e, _ => some (l, e)
    | none, _ => none

/-- What has to be put in place. -/
def additions (before after : FileTree) : List (Location × Entry) :=
  (insideOut (changed before after)).reverse.filterMap fun l => (after.get? l).map fun e => (l, e)

end CheckMatrix.FileTree
