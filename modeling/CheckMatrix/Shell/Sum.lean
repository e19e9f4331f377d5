/-
Whole-number arithmetic.

An expression is read with the usual ranks of its operators and worked out in words of sixty-four
bits.  A name stands for the number that its variable holds, and zero when it holds nothing;
assignments change the variables on the way.  A text that is no expression is worked out up to the
place where something is lacking, so what goes wrong in front of that place counts first.
-/
import CheckMatrix.Text.Numeral

namespace CheckMatrix.Shell

/-- What a text that is no expression lacks. -/
inductive Lack
  | operand
  | parenthesis
  | colon
  | ending
  deriving DecidableEq, Repr

/-- What is lacking, in words. -/
def Lack.words : Lack → String
  | operand => "primary"
  | parenthesis => "')'"
  | colon => "':'"
  | ending => "EOF"

/-- An expression; one that is broken lacks something behind it. -/
inductive Sum
  | number (n : Int)
  | holder (name : String)
  | same (a : Sum)
  | negate (a : Sum)
  | invert (a : Sum)
  | complement (a : Sum)
  | binary (operator : String) (a b : Sum)
  | choice (condition a b : Sum)
  | assign (name : String) (operator : String) (a : Sum)
  | broken (a : Sum) (lack : Lack)
  deriving DecidableEq, Repr

namespace Sum

/-! ### Reading -/

/-- The operators between two expressions with their ranks, the longest first. -/
def operators : List (String × Nat) := [
  ("<<", 8), (">>", 8), ("<=", 7), (">=", 7), ("==", 6), ("!=", 6), ("&&", 2), ("||", 1),
  ("*", 10), ("/", 10), ("%", 10), ("+", 9), ("-", 9), ("<", 7), (">", 7), ("&", 5), ("^", 4),
  ("|", 3)]

/-- The operators that change a variable. -/
def assignments : List String := [
  "<<=", ">>=", "*=", "/=", "%=", "+=", "-=", "&=", "^=", "|=", "="]

/-- A text without the blanks in front. -/
def skipBlanks (text : List Char) : List Char :=
  text.dropWhile fun c => c = ' ' || c = '\t' || c = '\n'

/-- The operator at the front of a text. -/
def operator? (text : List Char) : Option (String × Nat) :=
  operators.find? fun op => op.1.toList.isPrefixOf text

/-- The assignment at the front of a text. -/
def assignment? (text : List Char) : Option String :=
  assignments.find? fun op =>
    op.toList.isPrefixOf text && !(op = "=" && "==".toList.isPrefixOf text)

/-- The largest number there is. -/
def largest : Int := Nat.pow 2 63 - 1

/-- A number of a base that its beginning tells. -/
def numeral (text : List Char) : Option (Nat × List Char) :=
  let (base, digits) := match text with
    | '0' :: 'x' :: rest => (16, rest)
    | '0' :: 'X' :: rest => (16, rest)
    | '0' :: _ => (8, text)
    | _ => (10, text)
  let run := digits.takeWhile (Text.isDigitOf base)
  (Text.natOf? base run).map fun n => (n, digits.drop run.length)

/-- Nothing where something is lacking; what is left of the text does not matter then. -/
def lacking (lack : Lack) : Sum × List Char :=
  (.broken (.number 0) lack, [])

mutual

/-- Reads an expression without operators between its parts. -/
def operand : (depth : Nat) → List Char → Sum × List Char
  | 0, _ => lacking .operand
  | depth + 1, text =>
    match skipBlanks text with
    | [] => lacking .operand
    | '(' :: rest =>
      let (inner, rest) := whole depth rest
      match skipBlanks rest with
      | ')' :: rest => (.same inner, rest)
      | _ => (.broken inner .parenthesis, [])
    | '-' :: rest => (operand depth rest).map .negate id
    | '+' :: rest => (operand depth rest).map .same id
    | '!' :: rest => (operand depth rest).map .invert id
    | '~' :: rest => (operand depth rest).map .complement id
    | c :: rest =>
      if c.isDigit then
        match numeral (c :: rest) with
        | some (n, rest) => (.number (min n largest), rest)
        | none => (.number 0, rest)
      else if c.isAlpha ∨ c = '_' then
        let name := (c :: rest).takeWhile fun c => c.isAlphanum || c = '_'
        (.holder (String.ofList name), (c :: rest).drop name.length)
      else lacking .operand

/-- Goes on behind an expression with operators of a rank or a higher one. -/
def operations : (depth : Nat) → (rank : Nat) → Sum → List Char → Sum × List Char
  | 0, _, _, _ => lacking .operand
  | depth + 1, rank, first, text =>
    let text := skipBlanks text
    match if (assignment? text).isSome then none else operator? text with
    | some (op, height) =>
      if height < rank then (first, text)
      else
        let (second, rest) := operand depth (text.drop op.length)
        let (second, rest) := operations depth (height + 1) second rest
        operations depth rank (.binary op first second) rest
    | none => (first, text)

/-- Goes on behind the first operand of an expression that is a choice or operations. -/
def choice_ : (depth : Nat) → Sum → List Char → Sum × List Char
  | 0, _, _ => lacking .operand
  | depth + 1, first, text =>
    let (first, rest) := operations depth 1 first text
    match rest with
    | '?' :: rest =>
      let (a, rest) := whole depth rest
      match skipBlanks rest with
      | ':' :: rest =>
        let (b, rest) := operand depth rest
        (choice_ depth b rest).map (.choice first a) id
      | _ => (lacking .colon).map (.choice first a) id
    | _ => (first, rest)

/-- Reads a whole expression: an assignment to a name, a choice or operations. -/
def whole : (depth : Nat) → List Char → Sum × List Char
  | 0, _ => lacking .operand
  | depth + 1, text =>
    let (first, rest) := operand depth text
    match first, assignment? (skipBlanks rest) with
    | .holder name, some op =>
      (whole depth ((skipBlanks rest).drop op.length)).map
        (.assign name ((op.dropEnd 1).toString)) id
    | _, _ => choice_ depth first rest

end

/-- The expression that a text is. -/
def ofText (text : List Char) : Sum :=
  let (read, rest) := whole (4 * text.length + 8) text
  if (skipBlanks rest).isEmpty then read else .broken read .ending

/-! ### Working out -/

/-- A number as a word of sixty-four bits with a sign. -/
def wrap (n : Int) : Int :=
  Int.bmod n (Nat.pow 2 64)

/-- The number that stands for a truth value. -/
def truth (b : Bool) : Int :=
  if b then 1 else 0

/-- What goes wrong when an expression is worked out. -/
inductive Fault
  | lacking (lack : Lack)
  | divisionByZero
  | overflow
  | illegalNumber (text : String)
  deriving DecidableEq, Repr

/-- Works out an operation on two numbers.  A quotient may be one more than the largest number. -/
def result (operator : String) (a b : Int) : Except Fault Int :=
  let bits (f : Nat → Nat → Nat) := wrap (f (a % Nat.pow 2 64).toNat (b % Nat.pow 2 64).toNat)
  let divided (quotient : Int) : Except Fault Int :=
    if b = 0 then .error .divisionByZero
    else if b = -1 ∧ a = -largest - 1 then .error .overflow
    else .ok quotient
  match operator with
  | "+" => .ok (wrap (a + b))
  | "-" => .ok (wrap (a - b))
  | "*" => .ok (wrap (a * b))
  | "/" => divided (a.tdiv b)
  | "%" => divided (a.tmod b)
  | "<<" => .ok (wrap (a * Nat.pow 2 (b % 64).toNat))
  | ">>" => .ok (a.fdiv (Nat.pow 2 (b % 64).toNat))
  | "<=" => .ok (truth (a ≤ b))
  | ">=" => .ok (truth (b ≤ a))
  | "<" => .ok (truth (a < b))
  | ">" => .ok (truth (b < a))
  | "==" => .ok (truth (a = b))
  | "!=" => .ok (truth (a ≠ b))
  | "&" => .ok (bits Nat.land)
  | "^" => .ok (bits Nat.xor)
  | "|" => .ok (bits Nat.lor)
  | _ => .ok 0

/-- Variables set so far, the latest first. -/
abbrev Settings := List (String × String)

/-- Working out expressions, which may set variables and go wrong. -/
abbrev Working := ExceptT Fault (StateM Settings)

/-- The number that a text held by a variable is; blanks of all kinds may stand around it. -/
def heldNumber (text : String) : Except Fault Int :=
  let chars := Text.withoutBlanks text.toList
  let (negative, digits) := match chars with
    | '-' :: rest => (true, rest)
    | '+' :: rest => (false, rest)
    | rest => (false, rest)
  if chars.isEmpty then .ok 0
  else
    match numeral digits with
    | some (n, []) =>
      let value : Int := if negative then -n else n
      if -largest - 1 ≤ value ∧ value ≤ largest then .ok value else .error (.illegalNumber text)
    | _ => .error (.illegalNumber text)

/-- The number that a variable holds. -/
def valueOf (outside : String → String) (name : String) : Working Int := do
  ofExcept (heldNumber (((← get).lookup name).getD (outside name)))

/-- Works out an expression.  One that is `skipped` is only looked through for what is lacking. -/
def eval (outside : String → String) : (skipped : Bool) → Sum → Working Int
  | _, number n => return wrap n
  | skipped, holder x => if skipped then return 0 else valueOf outside x
  | skipped, same a => eval outside skipped a
  | skipped, negate a => do return wrap (-(← eval outside skipped a))
  | skipped, invert a => do return truth ((← eval outside skipped a) = 0)
  | skipped, complement a => do return -(← eval outside skipped a) - 1
  | skipped, binary "&&" a b => do
    let m ← eval outside skipped a
    let n ← eval outside (skipped || m = 0) b
    return truth (m ≠ 0 ∧ n ≠ 0)
  | skipped, binary "||" a b => do
    let m ← eval outside skipped a
    let n ← eval outside (skipped || m ≠ 0) b
    return truth (m ≠ 0 ∨ n ≠ 0)
  | skipped, binary op a b => do
    let m ← eval outside skipped a
    let n ← eval outside skipped b
    if skipped then return n else ofExcept (result op m n)
  | skipped, choice c a b => do
    let m ← eval outside skipped c
    let x ← eval outside (skipped || m = 0) a
    let y ← eval outside (skipped || m ≠ 0) b
    return if m ≠ 0 then x else y
  | skipped, assign x op a => do
    let n ← eval outside skipped a
    if skipped then return n
    let r ← if op.isEmpty then pure n else do
      let m ← valueOf outside x
      ofExcept (result op m n)
    modify ((x, toString r) :: ·)
    return r
  | skipped, broken a lack => do
    let _ ← eval outside skipped a
    throw (.lacking lack)

/-- What a text is worth as an expression, and the variables that it sets, the latest first. -/
def workOut (outside : String → String) (text : List Char) : Except Fault Int × Settings :=
  (eval outside false (ofText text)).run.run []

end Sum

end CheckMatrix.Shell
