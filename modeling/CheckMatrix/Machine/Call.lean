/-
Calling programs.

A program is called by a name with arguments, variables and handles.  What it says goes to its
handles, and what goes wrong is said under the name that it is called by.  All texts are packed.
-/
import CheckMatrix.Machine.Activity

namespace CheckMatrix

/-- What a program is called with: the name it is called by, the number of its process and of the
one that calls it, arguments, variables, handles by number, and the signals that do nothing to it.
-/
structure Call where
  name : String
  pid : Nat
  caller : Nat
  args : List String
  env : List (String × String)
  handles : List (Nat × Handle)
  ignored : List Nat

namespace Call

/-- The handle with a number. -/
def handle? (c : Call) (number : Nat) : Option Handle :=
  c.handles.lookup number

/-- Writes bytes to the standard output. -/
def print (c : Call) (bytes : List UInt8) : Doing Unit :=
  Doing.write c.pid true (c.handle? 1) bytes

/-- Writes a text to the standard output. -/
def say (c : Call) (text : String) : Doing Unit :=
  c.print (Text.bytesOf text)

/-- Writes a line to the standard error output; nobody is told if that is not possible. -/
def complain (c : Call) (text : String) : Doing Unit :=
  Doing.write c.pid false (c.handle? 2) (Text.bytesOf (text ++ "\n"))

/-- Says what is wrong, under the name that the program is called by. -/
def blame (c : Call) (fault : String) : Doing Unit :=
  c.complain (c.name ++ ": " ++ fault)

/-! ### The size of calls -/

/-- The longest argument or variable, in bytes with the one that ends it. -/
def maxText : Nat := 131072

/-- The most bytes that arguments and variables may take up. -/
def maxTexts : Nat := 2097152

/-- There are too many arguments and variables, or one of them is too long.  The name counts as an
argument. -/
def isTooLong (c : Call) : Bool :=
  let sizes := (c.name :: c.args).map String.length ++
    c.env.map fun e => e.1.length + e.2.length + 1
  sizes.any (maxText ≤ ·) || maxTexts < sizes.foldl (fun total size => total + size + 9) 0

end Call

end CheckMatrix
