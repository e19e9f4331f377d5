/-
What tools have in common.

A tool is called with arguments and handles and ends with a code: zero when all went well.  Its
arguments are switches and operands in any order.  What goes wrong is said on the standard error
output, under the name of the tool, and a tool goes on with its next operand after that.
-/
import CheckMatrix.Machine.Quoting

namespace CheckMatrix

/-- A program: what it does with a call, and the code it exits with. -/
abbrev Tool := Call → Doing Nat

namespace Tool

/-! ### Switches and operands -/

/-- A switch of a tool: its letter, the word that may stand for it, if there is one, and whether it
has an argument. -/
structure Switch where
  letter : Char
  word : String
  hasArgument : Bool
  deriving DecidableEq, Repr

/-- A switch without an argument. -/
def plain (letter : Char) (word : String) : Switch :=
  ⟨letter, word, false⟩

/-- A switch with an argument. -/
def valued (letter : Char) (word : String) : Switch :=
  ⟨letter, word, true⟩

/-- The switches that arguments ask for, with their arguments, and the operands. -/
abbrev Arguments := List (Char × String) × List String

/-- The letters of switches. -/
def lettersOf (switches : List (Char × String)) : List Char :=
  switches.map Prod.fst

/-- The argument of the last switch of a letter. -/
def argumentOf? (switches : List (Char × String)) (letter : Char) : Option String :=
  (switches.filter (·.1 = letter)).getLast?.map Prod.snd

/-- The switch whose word, or the beginning of it, stands behind two hyphens, and its argument if
one stands behind an equals sign. -/
def wordSwitch (known : List Switch) (arg : String) : Except String (Switch × Option String) :=
  let text := arg.toList.drop 2
  let name := text.takeWhile (· ≠ '=')
  let value := if name.length < text.length then some (String.ofList (text.drop (name.length + 1)))
    else none
  let named := known.filter fun s => !s.word.isEmpty && name.isPrefixOf s.word.toList
  let chosen := match named.find? fun s => s.word.toList = name with
    | some exact => [exact]
    | none => named
  match chosen with
  | [] => .error ("unrecognized option '" ++ arg ++ "'")
  | [s] =>
    if value.isSome && !s.hasArgument then
      .error ("option '--" ++ s.word ++ "' doesn't allow an argument")
    else .ok (s, value)
  | _ => .error ("option '" ++ arg ++ "' is ambiguous; possibilities:" ++
      String.join (chosen.map fun s => " '--" ++ s.word ++ "'"))

/-- Reads the letters of one argument; `next` is the argument behind it, which may be used up. -/
def letterSwitches (known : List Switch) (next : Option String) :
    List Char → Except String (List (Char × String) × Bool)
  | [] => .ok ([], false)
  | c :: rest =>
    match known.find? (·.letter = c) with
    | none => .error ("invalid option -- '" ++ toString c ++ "'")
    | some s =>
      if !s.hasArgument then
        (letterSwitches known next rest).map fun (more, used) => ((c, "") :: more, used)
      else if !rest.isEmpty then .ok ([(c, String.ofList rest)], false)
      else
        match next with
        | some value => .ok ([(c, value)], true)
        | none => .error ("option requires an argument -- '" ++ toString c ++ "'")

/-- Tells switches from operands, of so many arguments at most; behind two hyphens everything is an
operand. -/
def operandsFrom (known : List Switch) : (bound : Nat) → List String → Except String Arguments
  | 0, args => .ok ([], args)
  | bound + 1, args =>
    match args with
    | [] => .ok ([], [])
    | arg :: rest =>
      match arg.toList with
      | ['-', '-'] => .ok ([], rest)
      | '-' :: '-' :: _ => do
        let (s, value) ← wordSwitch known arg
        let (value, rest) ← match value, rest with
          | some value, _ => pure (value, rest)
          | none, value :: rest' => pure (if s.hasArgument then (value, rest') else ("", rest))
          | none, [] =>
            if s.hasArgument then .error ("option '--" ++ s.word ++ "' requires an argument")
            else pure ("", [])
        let (more, words) ← operandsFrom known bound rest
        return ((s.letter, value) :: more, words)
      | '-' :: c :: letters => do
        let (found, used) ← letterSwitches known rest.head? (c :: letters)
        let (more, words) ← operandsFrom known bound (if used then rest.tail else rest)
        return (found ++ more, words)
      | _ => do
        let (more, words) ← operandsFrom known bound rest
        return (more, arg :: words)

/-- Tells switches from operands. -/
def operands (known : List Switch) (args : List String) : Except String Arguments :=
  operandsFrom known args.length args

/-- Says what is wrong with a call. -/
def misused (fault : String) (c : Call) : Doing Nat := do
  c.blame fault
  c.complain ("Try '" ++ c.name ++ " --help' for more information.")
  return 1

end Tool

end CheckMatrix
