/-
Conditions of a shell.

A condition is a list of words.  Its parts are joined by `-o` and, binding tighter, `-a`, turned
around by an exclamation mark and held together by parentheses.  A single word is a condition too:
it holds when it is not empty.  What a word is depends on the words behind it: an operator that has
nothing to be about is a word like any other.
-/
import CheckMatrix.Machine.Question

namespace CheckMatrix.Condition

/-- What a word is. -/
inductive Token
  | ending
  | operand
  | unary
  | binary
  | both
  | either
  | not
  | opening
  | closing
  deriving DecidableEq, Repr

/-- What the first of some words is. -/
def token : List String → Token
  | [] => .ending
  | word :: rest =>
    if isUnary word then
      match rest with
      | [] => .operand
      | [_] => .unary
      | next :: _ => if isBinary next then .operand else .unary
    else if isBinary word then .binary
    else
      match word with
      | "-a" => .both
      | "-o" => .either
      | "!" => .not
      | "(" => if rest.isEmpty then .operand else .opening
      | ")" => .closing
      | _ => .operand

/-- The truth of a part of a condition, and the words from its last one on. -/
abbrev Answer := Except Fault (Bool × List String)

/-- A part without operators that join or turn around. -/
def simple (t : FileTree) (kind : Token) : List String → Answer
  | [] => .ok (false, [])
  | word :: rest =>
    if kind = .ending then .ok (false, word :: rest)
    else if kind = .unary then
      match rest with
      | [] => .error (.argumentExpected word)
      | operand :: _ => (askOne t word operand).map fun holds => (holds, rest)
    else
      match token rest, rest with
      | .binary, [operator] => .error (.argumentExpected operator)
      | .binary, operator :: operand :: after =>
        (askTwo t operator word operand).map fun holds => (holds, operand :: after)
      | _, _ => .ok (!word.isEmpty, word :: rest)

mutual

/-- Parts of which one has to hold. -/
def alternatives (t : FileTree) : (bound : Nat) → Token → List String → Answer
  | 0, _, _ => .error (.unclosed)
  | bound + 1, kind, words => do
    let (first, words) ← conjunction t bound kind words
    if token words.tail = .either then
      let rest := words.tail.tail
      let (second, words) ← alternatives t bound (token rest) rest
      return (first || second, words)
    else return (first, words)

/-- Parts that all have to hold. -/
def conjunction (t : FileTree) : (bound : Nat) → Token → List String → Answer
  | 0, _, _ => .error (.unclosed)
  | bound + 1, kind, words => do
    let (first, words) ← factor t bound kind words
    if token words.tail = .both then
      let rest := words.tail.tail
      let (second, words) ← conjunction t bound (token rest) rest
      return (first && second, words)
    else return (first, words)

/-- A part in parentheses, turned around, or neither. -/
def factor (t : FileTree) : (bound : Nat) → Token → List String → Answer
  | 0, _, _ => .error (.unclosed)
  | bound + 1, kind, words =>
    match kind with
    | .not => do
      let next := token words.tail
      let (holds, words) ← factor t bound next (if next = .ending then words else words.tail)
      return (!holds, words)
    | .opening =>
      if token words.tail = .closing then .ok (false, words.tail)
      else do
        let (holds, words) ← alternatives t bound (token words.tail) words.tail
        if token words.tail = .closing then return (holds, words.tail)
        else throw (.unclosed)
    | _ => simple t kind words

end

/-- Works out a condition from its first word on; no more than one word may be left. -/
def worked (t : FileTree) (kind : Token) (words : List String) : Except Fault Bool := do
  match ← alternatives t (4 * words.length + 4) kind words with
  | (_, word :: _ :: _) => throw (.unexpectedOperator word)
  | (holds, _) => return holds

/-- Whether a condition holds, or what is wrong with it.  Of three or four words, the first one may
turn the others around, and the outer ones may be parentheses. -/
def holds (t : FileTree) (words : List String) : Except Fault Bool :=
  match words with
  | [] => .ok false
  | [a, b, c] =>
    if isBinary b then worked t .operand words
    else if a = "(" ∧ c = ")" then worked t (token [b]) [b]
    else if a = "!" then (worked t (token [b, c]) [b, c]).map (! ·)
    else worked t (token words) words
  | [a, b, c, d] =>
    if a = "(" ∧ d = ")" then worked t (token [b, c]) [b, c]
    else if a = "!" then turned t [b, c, d]
    else worked t (token words) words
  | _ => worked t (token words) words
where
  /-- Three words that are turned around by the one in front of them; one more of those among them
  changes nothing. -/
  turned (t : FileTree) (words : List String) : Except Fault Bool :=
    match words with
    | [a, b, c] =>
      if isBinary b then (worked t .operand words).map (! ·)
      else if a = "(" ∧ c = ")" then (worked t (token [b]) [b]).map (! ·)
      else if a = "!" then (worked t (token [b, c]) [b, c]).map (! ·)
      else (worked t (token words) words).map (! ·)
    | _ => .ok false

end CheckMatrix.Condition
