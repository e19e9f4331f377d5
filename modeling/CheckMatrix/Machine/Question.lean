/-
Questions about texts, numbers and files.

A question is an operator in front of one word or between two.  Numbers are words of sixty-four
bits.  Files have no ages: none is newer or older than another.
-/
import CheckMatrix.FileTree.Operations
import CheckMatrix.Text.Numeral

namespace CheckMatrix

namespace Condition

/-- What is wrong with a condition. -/
inductive Fault
  | illegalNumber (word : String)
  | argumentExpected (behind : String)
  | unclosed
  | unexpectedOperator (word : String)
  deriving DecidableEq, Repr

/-- What is wrong, in words. -/
def Fault.words : Fault → String
  | .illegalNumber word => "Illegal number: " ++ word
  | .argumentExpected word => word ++ ": argument expected"
  | .unclosed => "closing paren expected"
  | .unexpectedOperator word =>
    (if word.isEmpty then "" else word ++ ": ") ++ "unexpected operator"

/-- What a path leads to satisfies a predicate. -/
def entryIs (t : FileTree) (path : String) (good : Entry → Bool) : Bool :=
  match t.find (.ofPacked path) with
  | .ok (_, e) => good e
  | .error _ => false

/-- The path leads to a symbolic link. -/
def isLink (t : FileTree) (path : String) : Bool :=
  match t.resolve (.ofPacked path) .entry with
  | .ok (.found _ (.link _)) => true
  | _ => false

/-- The number that a word stands for. -/
def number (word : String) : Except Fault Int :=
  match Text.intOf? (Text.withoutBlanks word.toList) with
  | some n =>
    let limit : Int := Nat.pow 2 63
    if n < -limit ∨ limit ≤ n then .error (.illegalNumber word) else .ok n
  | none => .error (.illegalNumber word)

/-- The operators in front of one word, without their hyphens. -/
def unaryLetters : String := "bcdefghknprstuwxzGLOS"

/-- An operator in front of one word. -/
def isUnary (word : String) : Bool :=
  match word.toList with
  | ['-', c] => unaryLetters.toList.contains c
  | _ => false

/-- An operator between two words. -/
def isBinary (word : String) : Bool :=
  ["=", "!=", "<", ">", "-eq", "-ne", "-ge", "-gt", "-le", "-lt", "-nt", "-ot", "-ef"].contains word

/-- The operators that are not about files. -/
def plainOperators : List String := [
  "-n", "-z", "-t", "-a", "-o", "-eq", "-ne", "-ge", "-gt", "-le", "-lt"]

/-- The words may ask about files. -/
def mayAskFiles (words : List String) : Bool :=
  words.any fun word => word.startsWith "-" && !plainOperators.contains word

/-- Asks about one word. -/
def askOne (t : FileTree) (operator word : String) : Except Fault Bool :=
  match operator with
  | "-n" => .ok !word.isEmpty
  | "-z" => .ok word.isEmpty
  | "-f" => .ok (t.isFile (.ofPacked word))
  | "-d" => .ok (t.isDirectory (.ofPacked word))
  | "-x" => .ok (entryIs t word fun
    | .dir => true
    | .program _ => true
    | _ => false)
  | "-s" => .ok (entryIs t word fun
    | .file content => !content.isEmpty
    | .null => false
    | _ => true)
  | "-c" => .ok (entryIs t word fun e => e = .null)
  | "-h" => .ok (isLink t word)
  | "-L" => .ok (isLink t word)
  | "-t" => (number word).map fun _ => false
  | _ =>
    if ["-b", "-p", "-S", "-u", "-g", "-k"].contains operator then .ok false
    else .ok (t.pathExists (.ofPacked word))

/-- Both paths lead to the same place. -/
def isSame (t : FileTree) (a b : String) : Bool :=
  match t.find (.ofPacked a), t.find (.ofPacked b) with
  | .ok (l, _), .ok (m, _) => l = m
  | _, _ => false

/-- Asks about two words. -/
def askTwo (t : FileTree) (operator a b : String) : Except Fault Bool :=
  let compare (holds : Int → Int → Bool) : Except Fault Bool := do
    return holds (← number a) (← number b)
  match operator with
  | "!=" => .ok (a ≠ b)
  | "<" => .ok (a < b)
  | ">" => .ok (b < a)
  | "-nt" => .ok false
  | "-ot" => .ok false
  | "-ef" => .ok (isSame t a b)
  | "-eq" => compare fun m n => m = n
  | "-ne" => compare fun m n => m ≠ n
  | "-gt" => compare fun m n => n < m
  | "-ge" => compare fun m n => n ≤ m
  | "-lt" => compare fun m n => m < n
  | "-le" => compare fun m n => m ≤ n
  | _ => .ok (a = b)

end Condition

end CheckMatrix
