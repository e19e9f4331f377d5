/-
Removing empty directories.

An operand that is refused is pointed out and changes nothing.
-/
import CheckMatrix.Machine.Tool

namespace CheckMatrix.Tool

/-- What is said about an operand: that a directory is removed, or why it is not. -/
inductive Remark
  | told (line : String)
  | refused (reason : String)
  deriving DecidableEq, Repr

/-- The path of the directory above, as it is written, if there is one. -/
def above? (word : String) : Option String :=
  let rest := (word.toList.reverse.dropWhile (· = '/')).dropWhile (· ≠ '/')
  match rest.dropWhile (· = '/') with
  | [] => none
  | dir => some (String.ofList dir.reverse)

/-- Removes an empty directory, and on request those above it, at most `bound` of them. -/
def removeUpwards (c : Call) (letters : List Char) :
    (bound : Nat) → (act : String) → String → FileTree → FileTree × List Remark
  | 0, _, _, t => (t, [])
  | bound + 1, act, word, t =>
    let said := if letters.contains 'v' then
        [Remark.told ("rmdir: removing directory, " ++ c.shellWord word)]
      else []
    match t.removeDir (.ofPacked word) with
    | .error cause =>
      let refused := Remark.refused (act ++ " " ++ c.shellWord word ++ ": " ++ cause.words)
      (t, said ++ if cause = .notEmpty && letters.contains 'i' then [] else [refused])
    | .ok after =>
      match if letters.contains 'p' then above? word else none with
      | none => (after, said)
      | some dir =>
        let (after, more) := removeUpwards c letters bound "failed to remove directory" dir after
        (after, said ++ more)

/-- Removes empty directories, and those above them on request. -/
def rmdir : Tool := fun c => do
  let known := [plain 'p' "parents", plain 'v' "verbose", plain 'i' "ignore-fail-on-non-empty"]
  match operands known c.args with
  | .error fault => misused fault c
  | .ok (_, []) => misused "missing operand" c
  | .ok (switches, words) =>
    words.foldlM (fun code word => do
      let w ← get
      let (tree, remarks) :=
        removeUpwards c (lettersOf switches) (word.length + 1) "failed to remove" word w.tree
      set (w.withTree tree)
      remarks.foldlM (fun code remark => do
        match remark with
        | .told line =>
          c.say (line ++ "\n")
          return code
        | .refused reason =>
          c.blame reason
          return 1) code) 0

end CheckMatrix.Tool
