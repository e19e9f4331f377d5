/-
Why an operation on files fails.
-/
namespace CheckMatrix

/-- The causes for which the system refuses an operation on files. -/
inductive FileError
  | notFound
  | inputOutput
  | tooManyArguments
  | badHandle
  | permissionDenied
  | alreadyExists
  | notDirectory
  | isDirectory
  | invalidArgument
  | nameTooLong
  | brokenPipe
  | notEmpty
  | tooManyLinks
  | nulInName
  | notText
  deriving DecidableEq, Repr

/-- The system's number for a cause, if it has one. -/
def FileError.number? : FileError → Option Nat
  | notFound => some 2
  | inputOutput => some 5
  | tooManyArguments => some 7
  | badHandle => some 9
  | permissionDenied => some 13
  | alreadyExists => some 17
  | notDirectory => some 20
  | isDirectory => some 21
  | invalidArgument => some 22
  | brokenPipe => some 32
  | nameTooLong => some 36
  | notEmpty => some 39
  | tooManyLinks => some 40
  | nulInName => none
  | notText => none

/-- A cause in words. -/
def FileError.words : FileError → String
  | notFound => "No such file or directory"
  | inputOutput => "Input/output error"
  | tooManyArguments => "Argument list too long"
  | badHandle => "Bad file descriptor"
  | permissionDenied => "Permission denied"
  | alreadyExists => "File exists"
  | notDirectory => "Not a directory"
  | isDirectory => "Is a directory"
  | invalidArgument => "Invalid argument"
  | brokenPipe => "Broken pipe"
  | nameTooLong => "File name too long"
  | notEmpty => "Directory not empty"
  | tooManyLinks => "Too many levels of symbolic links"
  | nulInName => "file name contained an unexpected NUL byte"
  | notText => "stream did not contain valid UTF-8"

/-- What is reported for a cause. -/
def FileError.message (e : FileError) : String :=
  match e.number? with
  | some number => e.words ++ " (os error " ++ toString number ++ ")"
  | none => e.words

end CheckMatrix
