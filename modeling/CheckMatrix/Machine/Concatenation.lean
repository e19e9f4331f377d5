/-
Inputs shown one after the other.

On the way through, bytes can be made visible, lines numbered and marked at their ends, and empty
lines left out that follow another one.  The lines are those of all inputs together: one that an
input begins goes on in the next.
-/
import CheckMatrix.Machine.Tool

namespace CheckMatrix

namespace Concatenation

/-- How bytes are shown. -/
structure Showing where
  numbers : Bool
  numbersEmpty : Bool
  ends : Bool
  tabs : Bool
  unprintable : Bool
  squeezes : Bool
  deriving DecidableEq, Repr

/-- The showing that options ask for. -/
def Showing.ofLetters (letters : List Char) : Showing :=
  let one (cs : String) : Bool := letters.any cs.toList.contains
  { numbers := one "nb", numbersEmpty := !one "b", ends := one "AEe", tabs := one "ATt",
    unprintable := one "Aevt", squeezes := one "s" }

/-- Where showing stands: the lines numbered so far; at the beginning of a line, how many empty
lines are in front of it, two at most; and whether a carriage return waits for what follows it. -/
structure Count where
  number : Nat
  empty : Option Nat
  waiting : Bool
  deriving DecidableEq, Repr

/-- The beginning. -/
def Count.start : Count :=
  ⟨0, some 0, false⟩

/-- A number in front of a line. -/
def numbered (n : Nat) : List UInt8 :=
  let digits := toString n
  Text.encode (List.replicate (6 - digits.length) ' ' ++ digits.toList ++ ['\t'])

/-- A byte made visible. -/
def visible (b : UInt8) : List UInt8 :=
  let low := b % 128
  let front : List UInt8 := if b < 128 then [] else [77, 45]
  front ++ if low < 32 then [94, low + 64] else if low = 127 then [94, 63] else [low]

/-- A byte within a line. -/
def Showing.byte (how : Showing) (b : UInt8) : List UInt8 :=
  if b = 9 then if how.tabs then visible b else [b]
  else if how.unprintable then visible b
  else [b]

/-- Goes on behind a line feed. -/
def Showing.lineFeed (how : Showing) (s : Count) : List UInt8 × Count :=
  let waited : List UInt8 := if !s.waiting then [] else if how.ends then [94, 77] else [13]
  let mark : List UInt8 := if how.ends then [36] else []
  match s.empty with
  | none => (waited ++ mark ++ [10], { s with empty := some 0, waiting := false })
  | some empty =>
    if how.squeezes && 1 ≤ empty then ([], { s with empty := some 2 })
    else
      let s := { s with empty := some (min 2 (empty + 1)) }
      if how.numbers && how.numbersEmpty then
        (numbered (s.number + 1) ++ waited ++ mark ++ [10],
          { s with number := s.number + 1, waiting := false })
      else (waited ++ mark ++ [10], { s with waiting := false })

/-- Goes on behind a byte that is no line feed. -/
def Showing.other (how : Showing) (s : Count) (b : UInt8) : List UInt8 × Count :=
  let waited : List UInt8 := if s.waiting then [13] else []
  let begins := s.empty.isSome && how.numbers
  let front := if begins then numbered (s.number + 1) else []
  let s := { s with number := s.number + (if begins then 1 else 0), empty := none }
  if b = 13 && how.ends && !how.unprintable then (waited ++ front, { s with waiting := true })
  else (waited ++ front ++ how.byte b, { s with waiting := false })

/-- Shows bytes; what they become comes in reverse order. -/
def Showing.bytes (how : Showing) (s : Count) (bytes : List UInt8) : List UInt8 × Count :=
  let (shown, s) := bytes.foldl (fun (shown, s) b =>
    let (more, s) := if b = 10 then how.lineFeed s else how.other s b
    (more.reverse ++ shown, s)) (([] : List UInt8), s)
  (shown.reverse, s)

end Concatenation

namespace Tool

open Concatenation

/-- The switches of the tool that shows its inputs one after the other. -/
def catSwitches : List Switch := [
  plain 'b' "number-nonblank", plain 'n' "number", plain 's' "squeeze-blank",
  plain 'v' "show-nonprinting", plain 'E' "show-ends", plain 'T' "show-tabs", plain 'A' "show-all",
  plain 'e' "", plain 't' "", plain 'u' ""]

/-- An input is the file that the output goes to, and there is something in it. -/
def isOwnOutput (c : Call) (word : String) (w : World) : Bool :=
  let place (h : Option Handle) : Option Location := match h with
    | some (.file index) => (w.files.lookup index).map OpenFile.at_
    | _ => none
  let source :=
    if word = "-" then place (c.handle? 0) else (w.tree.find (.ofPacked word)).toOption.map Prod.fst
  match source, place (c.handle? 1) with
  | some a, some b =>
    match w.tree.get? a with
    | some (.file content) => a = b && !content.isEmpty
    | _ => false
  | _, _ => false

/-- Shows what can be read from a handle, in so many rounds at most; the cause comes with it if
something cannot be read.  Nothing more is read when it cannot be shown. -/
def catHandle (how : Showing) (c : Call) (h : Option Handle) :
    (rounds : Nat) → Count → Doing (Count × Option FileError)
  | 0, s => return (s, none)
  | rounds + 1, s => do
    match ← Doing.receive h with
    | .ok [] => return (s, none)
    | .ok bytes =>
      let (shown, s) := how.bytes s bytes
      c.print shown
      if ((← get).unwritten.lookup c.pid).isSome then return (s, none)
      else catHandle how c h rounds s
    | .error cause => return (s, some cause)

/-- Shows one input. -/
def catInput (how : Showing) (c : Call) (s : Count) (word : String) : Doing (Count × Bool) := do
  let refused (s : Count) (reason : String) : Doing (Count × Bool) := do
    c.blame (c.shellWordIfOdd word ++ ": " ++ reason)
    return (s, false)
  if isOwnOutput c word (← get) then refused s "input file is output file"
  else if word = "-" then
    match ← catHandle how c (c.handle? 0) Doing.endless s with
    | (s, none) => return (s, true)
    | (s, some cause) => refused s cause.words
  else
    match (← get).tree.readFile (.ofPacked word) with
    | .ok bytes =>
      let (shown, s) := how.bytes s bytes
      c.print shown
      return (s, true)
    | .error cause => refused s cause.words

/-- Shows inputs one after the other. -/
def cat : Tool := fun c => do
  match operands catSwitches c.args with
  | .error fault => misused fault c
  | .ok (switches, words) =>
    if (c.handle? 1).isNone then
      c.blame ("standard output: " ++ FileError.badHandle.words)
      return 1
    let how := Showing.ofLetters (lettersOf switches)
    let inputs := if words.isEmpty then ["-"] else words
    let (s, fine) ← inputs.foldlM (fun (s, fine) word => do
      let (s, good) ← catInput how c s word
      return (s, fine && good)) (Count.start, true)
    if s.waiting then c.print [13]
    if inputs.contains "-" ∧ (c.handle? 0).isNone then
      c.blame ("closing standard input: " ++ FileError.badHandle.words)
    return if fine then 0 else 1

end Tool

end CheckMatrix
