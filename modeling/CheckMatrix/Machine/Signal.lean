/-
Signals and how a program ends.

A program ends by itself with a code, or a signal ends it.  Signals are known by a number and by a
name; some do nothing to a program that does not wait for them.
-/
import CheckMatrix.Text.Numeral

namespace CheckMatrix

/-- How a program ended. -/
inductive Exit
  | exited (code : Nat)
  | killed (signal : Nat)
  deriving DecidableEq, Repr

/-- The code that a shell tells for an ending. -/
def Exit.status : Exit → Nat
  | exited code => code
  | killed signal => 128 + signal

namespace Signal

/-- The signals with a meaning: their numbers, their names and what is said of a program that one
ended. -/
def table : List (Nat × String × String) := [
  (1, "HUP", "Hangup"),
  (2, "INT", "Interrupt"),
  (3, "QUIT", "Quit"),
  (4, "ILL", "Illegal instruction"),
  (5, "TRAP", "Trace/breakpoint trap"),
  (6, "ABRT", "Aborted"),
  (7, "BUS", "Bus error"),
  (8, "FPE", "Floating point exception"),
  (9, "KILL", "Killed"),
  (10, "USR1", "User defined signal 1"),
  (11, "SEGV", "Segmentation fault"),
  (12, "USR2", "User defined signal 2"),
  (13, "PIPE", "Broken pipe"),
  (14, "ALRM", "Alarm clock"),
  (15, "TERM", "Terminated"),
  (16, "16", "Stack fault"),
  (17, "CHLD", "Child exited"),
  (18, "CONT", "Continued"),
  (19, "STOP", "Stopped (signal)"),
  (20, "TSTP", "Stopped"),
  (21, "TTIN", "Stopped (tty input)"),
  (22, "TTOU", "Stopped (tty output)"),
  (23, "URG", "Urgent I/O condition"),
  (24, "XCPU", "CPU time limit exceeded"),
  (25, "XFSZ", "File size limit exceeded"),
  (26, "VTALRM", "Virtual timer expired"),
  (27, "PROF", "Profiling timer expired"),
  (28, "WINCH", "Window changed"),
  (29, "IO", "I/O possible"),
  (30, "PWR", "Power failure"),
  (31, "SYS", "Bad system call")]

def interrupt : Nat := 2
def quit : Nat := 3
def floatingPoint : Nat := 8
def kill : Nat := 9
def brokenPipe : Nat := 13
def terminate : Nat := 15

/-- The largest number of a signal. -/
def largest : Nat := 64

/-- The first of the signals that are told apart by their numbers alone. -/
def firstPlain : Nat := 34

/-- The name of a signal.  The numbered ones are counted from the nearer end. -/
def name (signal : Nat) : String :=
  match table.lookup signal with
  | some entry => entry.1
  | none =>
    if signal < firstPlain then toString signal
    else if signal = firstPlain then "RTMIN"
    else if signal = largest then "RTMAX"
    else if signal < 50 then "RTMIN+" ++ toString (signal - firstPlain)
    else "RTMAX-" ++ toString (largest - signal)

/-- The names of all signals. -/
def names : List String :=
  (List.range largest).map fun i => name (i + 1)

/-- The number of the signal with a name, in capitals or not. -/
def ofName? (word : String) : Option Nat :=
  (names.idxOf? word.toUpper).map (· + 1)

/-- The number of the signal that a word names, by its number or its name. -/
def ofWord? (word : String) : Option Nat :=
  match Text.natOf? 10 word.toList with
  | some number => if number ≤ largest then some number else none
  | none => ofName? word

/-- The signals that do nothing to a program that does not wait for them; none is number zero. -/
def isHarmless (signal : Nat) : Bool :=
  [0, 17, 18, 23, 28].contains signal

/-- What a signal is called in words. -/
def words (signal : Nat) : String :=
  match table.lookup signal with
  | some entry => entry.2
  | none =>
    if signal < firstPlain then "Unknown signal " ++ toString signal
    else "Real-time signal " ++ toString (signal - firstPlain)

/-- What is said of a program that a signal ended, if anything. -/
def epitaph? (signal : Nat) : Option String :=
  if signal = interrupt ∨ signal = brokenPipe then none else some (words signal)

end Signal

end CheckMatrix
