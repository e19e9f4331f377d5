/-
Processes taking turns.

One process goes on until it has to wait or has ended; then comes the first of the others that need
not wait any longer.  When all of them wait, time passes.  Processes that are left when the first one
has ended go on as long as no time has to pass.
-/
import CheckMatrix.Machine.Activity

namespace CheckMatrix

/-- A process that waits: its number, its working directory, what it waits for and how it goes on.
-/
structure Waiting where
  pid : Nat
  dir : Location
  need : Need
  go : World → Activity

namespace Waiting

/-- The first process that need not wait any longer, and the others. -/
def firstReady? (w : World) : List Waiting → Option (Waiting × List Waiting)
  | [] => none
  | p :: rest =>
    if p.need.isMet w p.pid then some (p, rest)
    else (firstReady? w rest).map fun (found, others) => (found, p :: others)

/-- The times for which processes wait. -/
def times (waiting : List Waiting) : List Nat :=
  waiting.filterMap fun p =>
    match p.need with
    | .time clock => some clock
    | _ => none

/-- The earliest time for which a process waits. -/
def earliest? (waiting : List Waiting) : Option Nat :=
  (times waiting).min?

end Waiting

/-- The turns that a process may take before the others have theirs. -/
def turnsInARow : Nat := 20000

/-- A process that has its turns: how many of them are left, its number, what it does, and the
processes that wait. -/
structure Turn where
  left : Nat
  pid : Nat
  activity : Activity
  waiting : List Waiting

namespace Turn

/-- The turn of the process that goes on next; time passes if it may and has to. -/
def ofWaiting? (passes : Bool) (w : World) (waiting : List Waiting) : Option Turn :=
  let living := waiting.filter fun p => (w.ending? p.pid).isNone
  let resumed (w : World) : Option Turn :=
    (Waiting.firstReady? w living).map fun (p, others) =>
      ⟨turnsInARow, p.pid, p.go (w.within p.dir), others⟩
  match resumed w with
  | some found => some found
  | none =>
    match if passes then Waiting.earliest? living else none with
    | some clock => resumed { w with clock }
    | none => none

/-- The turn of the process that goes on next, unless there is none or the process that is waited
for has ended; then the world and the processes that still wait are the result. -/
def onward (awaited : Option Nat) (w : World) (waiting : List Waiting) :
    Except (World × List Waiting) Turn :=
  if ((awaited.bind w.ending?).isSome) then .error (w, waiting)
  else
    match ofWaiting? awaited.isSome w waiting with
    | some t => .ok t
    | none => .error (w, waiting)

/-- The time that a process takes for its turns in a row, in nanoseconds. -/
def duration : Nat := 10000000

/-- The turn behind a turn. -/
def next (awaited : Option Nat) (t : Turn) : Except (World × List Waiting) Turn :=
  match t.activity with
  | .starts child start w go =>
    .ok { t with
      activity := go w, waiting := t.waiting ++ [⟨child, w.base.cwd, .turn, start⟩] }
  | .waits need w go =>
    if (need ≠ .turn || 0 < t.left) && need.isMet w t.pid then
      .ok { t with left := t.left - 1, activity := go w }
    else
      let w := if need = .turn then { w with clock := w.clock + duration } else w
      onward awaited w (t.waiting ++ [⟨t.pid, w.base.cwd, need, go⟩])
  | .ended exit_ w => onward awaited (w.conclude t.pid exit_) t.waiting

/-- Goes through turns, so many at most.  Time only passes for a process that is waited for. -/
def run (awaited : Option Nat) : (bound : Nat) → Turn → World × List Waiting
  | 0, t => (t.activity.world, t.waiting)
  | bound + 1, t =>
    match t.next awaited with
    | .ok after => run awaited bound after
    | .error result => result

end Turn

/-- The turns that processes may take which are left behind. -/
def turnsBehind : Nat := 200000

/-- Has a process end, and then the others that it left behind. -/
def runToEnd (pid : Nat) (act : World → Activity) (w : World) : World × Exit :=
  let (w, waiting) := Turn.run (some pid) Doing.endless ⟨turnsInARow, pid, act w, []⟩
  let exit_ := (w.ending? pid).getD (.killed Signal.kill)
  match Turn.ofWaiting? false w waiting with
  | some left => ((left.run none turnsBehind).1, exit_)
  | none => (w, exit_)

end CheckMatrix
