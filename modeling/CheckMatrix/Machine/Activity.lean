/-
What processes do.

An activity is what a process does up to the point where it has ended, waits for something or starts
another process, and how it goes on from there once it may.  What it does in between is a function
of the world, so several processes can take turns in one world.
-/
import CheckMatrix.Machine.World

namespace CheckMatrix

/-- What a process waits for: its next turn, something to read from a pipe, room in a pipe, the end
of another process, the same or a signal, or a time. -/
inductive Need
  | turn
  | input (pipe : Nat)
  | room (pipe : Nat)
  | ending (pid : Nat)
  | endingOrSignal (pid : Nat)
  | time (clock : Nat)
  deriving DecidableEq, Repr

/-- What a process waits for is there.  There is something to read when there are bytes or nobody
can write any; there is room when nobody will read any. -/
def Need.isMet (w : World) (pid : Nat) : Need → Bool
  | turn => true
  | input pipe => w.pipeSize pipe > 0 || !w.isHeld (.sink pipe)
  | room pipe => w.pipeSize pipe ≤ World.pipeCapacity || !w.isHeld (.source pipe)
  | ending child => (w.ending? child).isSome || (w.process? child).isNone
  | endingOrSignal child =>
    (w.ending? child).isSome || (w.process? child).isNone || w.posted.any (·.1 = pid)
  | time clock => clock ≤ w.clock

/-- What a process does. -/
inductive Activity
  | ended (exit_ : Exit) (w : World)
  | waits (need : Need) (w : World) (go : World → Activity)
  | starts (pid : Nat) (child : World → Activity) (w : World) (go : World → Activity)

/-- The world in which an activity stops. -/
def Activity.world : Activity → World
  | ended _ w => w
  | waits _ w _ => w
  | starts _ _ w _ => w

/-- A part of what a process does, with a result for the rest of it. -/
def Doing (α : Type) : Type :=
  World → (α → World → Activity) → Activity

namespace Doing

instance : Monad Doing where
  pure a := fun w go => go a w
  bind act next := fun w go => act w fun a w => next a w go

instance : MonadStateOf World Doing where
  get := fun w go => go w w
  set w := fun _ go => go ⟨⟩ w
  modifyGet change := fun w go =>
    let (a, w) := change w
    go a w

/-- Ends the process. -/
def endAs {α : Type} (exit_ : Exit) : Doing α :=
  fun w _ => .ended exit_ w

/-- Waits for something. -/
def await (need : Need) : Doing Unit :=
  fun w go => .waits need w (go ())

/-- Starts another process. -/
def start (pid : Nat) (child : World → Activity) : Doing Unit :=
  fun w go => .starts pid child w (go ())

/-- Writes bytes for a process, which may have to wait then.  The signal for a broken pipe ends it
unless it acts upon that signal or ignores it; if it `notes` that bytes were not written, that is
remembered. -/
def write (pid : Nat) (notes : Bool) (h : Option Handle) (bytes : List UInt8) : Doing Unit :=
    fun w go =>
  let noted (w : World) (cause : FileError) : World :=
    if notes then w.noteUnwritten pid cause else w
  match w.write h bytes with
  | (w, .done) =>
    match h with
    | some (.sink pipe) =>
      if w.pipeSize pipe > World.pipeCapacity then .waits (.room pipe) w (go ()) else go () w
    | _ => go () w
  | (w, .refused cause) => go () (noted w cause)
  | (w, .broken) =>
    match w.effectOn pid Signal.brokenPipe with
    | .death => .ended (.killed Signal.brokenPipe) w
    | _ => go () (noted (w.post pid Signal.brokenPipe) .brokenPipe)

/-- Takes what can be read, waiting for it; nothing is left if that is nothing. -/
def receive (h : Option Handle) : Doing (Except FileError (List UInt8)) := do
  match h with
  | some (.source pipe) => await (.input pipe)
  | _ => pure ()
  let (w, found) := (← get).look h
  match found with
  | .ok bytes =>
    set (w.skip h bytes.length)
    return .ok bytes
  | .error e =>
    set w
    return .error e

/-- More rounds than any process goes through. -/
def endless : Nat := Nat.pow 10 18

/-- Takes what is left to read until it is enough, in so many rounds at most; `taken` is what was
taken before. -/
def receiveFrom (h : Option Handle) (isEnough : List UInt8 → Bool) :
    (rounds : Nat) → (taken : Buffer) → Doing (Except FileError (List UInt8))
  | 0, taken => return .ok taken.content
  | rounds + 1, taken => do
    match ← receive h with
    | .ok [] => return .ok taken.content
    | .ok bytes =>
      let taken := taken.push bytes
      if isEnough taken.content then return .ok taken.content
      else receiveFrom h isEnough rounds taken
    | .error e => return .error e

/-- Takes what is left to read until it is enough. -/
def receiveUntil (h : Option Handle) (isEnough : List UInt8 → Bool) :
    Doing (Except FileError (List UInt8)) :=
  receiveFrom h isEnough endless (.ofBytes [])

/-- Takes everything that is left to read. -/
def drain (h : Option Handle) : Doing (Except FileError (List UInt8)) :=
  receiveUntil h fun _ => false

end Doing

end CheckMatrix
