/-
Scripts.

A script is what a shell makes of the text it is given: commands joined to lists and pipelines,
loops and choices around them, and words whose parts are only known when they are needed.
-/
namespace CheckMatrix.Shell

/-- How a file is attached to a number. -/
inductive Attachment
  | read
  | write
  | clobber
  | append
  | readWrite
  deriving DecidableEq, Repr

/-- What is done with the value of a name behind a dollar sign: nothing, counting its bytes, taking
the word instead of it or besides it, or cutting off what fits the word.  When it is `final`, the
word stands behind the value and nothing behind the word; `wrong` is none of these. -/
inductive Form
  | plain
  | length
  | instead (action : Char) (alsoEmpty : Bool)
  | trimmed (atFront longest : Bool)
  | final
  | wrong
  deriving DecidableEq, Repr

mutual

/-- A part of a word.  What is quoted is neither cut into fields nor taken for a pattern; a mark is
left where quotes begin and end, so that quotes with nothing between them are noticed. -/
inductive Piece
  | text (content : String) (quoted : Bool)
  | mark
  | parameter (name : String) (form : Form) (word : List Piece) (quoted : Bool)
  | output (body : Script) (quoted : Bool)
  | sum (expression : List Piece) (quoted : Bool)

/-- A file, another handle or a document in the script that is attached to a number. -/
inductive Redirection
  | file (number : Nat) (attachment : Attachment) (target : List Piece)
  | copy (number : Nat) (source : List Piece)
  | document (number : Nat) (index : Nat)

/-- What a shell carries out. -/
inductive Script
  | nothing
  | simple (line : Nat) (settings : List (String × List Piece)) (words : List (List Piece))
      (redirections : List Redirection)
  | redirected (line : Nat) (body : Script) (redirections : List Redirection)
  | pipeline (negated : Bool) (parts : List Script)
  | both (first second : Script)
  | either (first second : Script)
  | sequence (first second : Script)
  | background (body : Script)
  | subshell (body : Script)
  | branch (condition body otherwise : Script)
  | loop (untilTrue : Bool) (condition body : Script)
  | each (line : Nat) (name : String) (words : Option (List (List Piece))) (body : Script)
  | choice (line : Nat) (subject : List Piece) (cases : List (List (List Piece) × Script))
  | define (name : String) (body : Script)

end

/-- Nothing that stands behind the piece counts. -/
def Piece.isFinal : Piece → Bool
  | .parameter _ .final _ _ => true
  | _ => false

/-- A script and what comes behind it, if anything does. -/
def Script.andThen (first : Script) : Script → Script
  | .nothing => first
  | rest => .sequence first rest

/-- A word is made of pieces. -/
abbrev Word := List Piece

instance : Inhabited Script := ⟨.nothing⟩

end CheckMatrix.Shell
