/-
The small programs that commands are made of.

Those for files and for inputs have modules of their own; the others show their arguments, let time
pass, or answer a question with the code that they end with.
-/
import CheckMatrix.Machine.Concatenation
import CheckMatrix.Machine.Condition
import CheckMatrix.Machine.Printf
import CheckMatrix.Machine.Rmdir
import CheckMatrix.Machine.Touch

namespace CheckMatrix

namespace Tool

/-! ### Text -/

/-- The escapes of the program that shows its arguments. -/
def echoEscapes : EscapeStyle := ⟨true, true, true⟩

/-- The escapes of the shell when it shows arguments. -/
def plainEchoEscapes : EscapeStyle := ⟨true, false, true⟩

/-- The letters of an option that tells how words are shown, if the word is one. -/
def echoLetters? (word : String) : Option (List Char) :=
  match word.toList with
  | '-' :: c :: letters =>
    if (c :: letters).all fun c => c = 'n' || c = 'e' || c = 'E' then some (c :: letters) else none
  | _ => none

/-- Shows its arguments with blanks between them; backslashes count only on request. -/
def echo : Tool := fun c => do
  let options := (c.args.takeWhile fun word => (echoLetters? word).isSome)
  let letters := (options.filterMap echoLetters?).flatten
  let text := " ".intercalate (c.args.drop options.length)
  let wantsEscapes := (letters.filter (· ≠ 'n')).getLast? = some 'e'
  let (bytes, stops) :=
    if wantsEscapes then unescape echoEscapes 0 text.toList
    else (Text.bytesOf text, false)
  c.print (bytes ++ if stops || letters.contains 'n' then [] else [10])
  return 0

/-- Shows its arguments with blanks between them; backslashes count. -/
def plainEcho : Tool := fun c => do
  let bare := c.args.head? = some "-n"
  let text := " ".intercalate (if bare then c.args.drop 1 else c.args)
  let (bytes, stops) := unescape plainEchoEscapes 0 text.toList
  c.print (bytes ++ if stops || bare then [] else [10])
  return 0

/-- Shows arguments under a format: first what is wrong, then what is put out. -/
def printf : Tool := fun c => do
  match if c.args.head? = some "--" then c.args.tail else c.args with
  | [] =>
    c.blame "usage: printf format [arg ...]"
    return Printf.faultCode
  | format :: args =>
    let shown := Printf.run format args
    for fault in shown.faults do
      c.blame fault
    for bytes in shown.output do
      c.print bytes
    return shown.code

/-! ### Conditions and the rest -/

/-- Tests a condition.  The files are looked at as they stand if it may ask about them. -/
def test : Tool := fun c => do
  let w ← get
  match Condition.holds (if Condition.mayAskFiles c.args then w.tree else w.base) c.args with
  | .ok true => return 0
  | .ok false => return 1
  | .error fault =>
    c.blame fault.words
    return 2

/-- Tests a condition that a bracket closes. -/
def bracket : Tool := fun c => do
  if c.args.getLast?.any (·.startsWith "]") then test { c with args := c.args.dropLast }
  else
    c.blame "missing ]"
    return 2

/-- A length of time: digits with at most one dot among them, and perhaps a unit. -/
def isInterval (word : String) : Bool :=
  let digits := match word.toList.reverse with
    | c :: rest => if "smhd".toList.contains c then rest else c :: rest
    | [] => []
  (digits.any Char.isDigit) && digits.all (fun c => c.isDigit || c = '.') && digits.count '.' ≤ 1

/-- A length of time in nanoseconds. -/
def interval (word : String) : Nat :=
  let (digits, unit) := match word.toList.reverse with
    | 's' :: rest => (rest.reverse, 1)
    | 'm' :: rest => (rest.reverse, 60)
    | 'h' :: rest => (rest.reverse, 3600)
    | 'd' :: rest => (rest.reverse, 86400)
    | _ => (word.toList, 1)
  match Text.ratio? digits with
  | some (r, _) => r.num * unit * 1000000000 / r.den
  | none => 0

/-- Lets time pass. -/
def sleep : Tool := fun c => do
  match operands [] c.args with
  | .error fault => misused fault c
  | .ok (_, []) => misused "missing operand" c
  | .ok (_, words) =>
    match (words.filter fun word => !isInterval word).reverse with
    | [] =>
      let time := (words.map interval).foldl (· + ·) 0
      Doing.await (.time ((← get).clock + time))
      return 0
    | last :: others =>
      let fault (word : String) : String := "invalid time interval " ++ c.quoted word
      for word in others.reverse do
        c.blame (fault word)
      misused (fault last) c

/-- The tools by name. -/
def table : List (String × Tool) := [
  ("true", fun _ => pure 0),
  ("false", fun _ => pure 1),
  ("echo", echo),
  ("cat", cat),
  ("rmdir", rmdir),
  ("touch", touch),
  ("sleep", sleep)]

end Tool

end CheckMatrix
