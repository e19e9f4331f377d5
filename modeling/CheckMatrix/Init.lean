/-
Writing a first configuration.

The configuration that is written is always the same.  A file that is there already stays unless it
is to be replaced, and directories that are missing on the way are made.  The tree that is left is
part of the answer even when writing fails, since directories may have been made by then.
-/
import CheckMatrix.CommandLine.Options
import CheckMatrix.FileTree.Operations
import CheckMatrix.Run.Runner
import CheckMatrix.Voice

namespace CheckMatrix

/-! ### The configuration -/

/-- The paragraphs of the configuration, each a list of lines. -/
def firstConfigParagraphs : List (List String) := [
  ["# Workspace Check Matrix / 工作区检查矩阵"],
  [
    "# Language for output messages / 输出消息的语言",
    "language = \"en\""
  ],
  [
    "# Groups run when no -e / -w / -g flag is given. Remove to run every group.",
    "# 未提供 -e / -w / -g 标志时运行的组。删除此行则运行所有组。",
    "default_groups = [\"workspace\", \"abi-gen\", \"examples\"]"
  ],
  [
    "# Passed to every spawned command / 传递给每个子进程",
    "[env]",
    "RUST_BACKTRACE = \"1\""
  ],
  [
    "# Axes of the matrix. The first axis is the outermost loop.",
    "# 矩阵的轴。第一个轴是最外层循环。",
    "[[axes]]",
    "name = \"feature\"",
    "values = [\"contract\", \"collaboration\"]"
  ],
  [
    "[[axes]]",
    "name = \"target\"",
    "values = [\"wasm32-unknown-unknown\"]"
  ],
  [
    "# Values discovered from sub-directories / 从子目录中发现的值",
    "[[axes]]",
    "name = \"example\"",
    "dirs_in = [\"examples/contract\", \"examples/collaboration\"]"
  ],
  [
    "[[groups]]",
    "name = \"workspace\"",
    "description = \"Format, lint, build and test the workspace crates\""
  ],
  [
    "[[groups.steps]]",
    "label = \"checking formatting\"",
    "[[groups.steps.commands]]",
    "run = \"cargo fmt --all -- --check\""
  ],
  [
    "[[groups.steps]]",
    "label = \"checking feature {feature}\"",
    "[[groups.steps.commands]]",
    "run = \"cargo check --no-default-features --features {feature}\"",
    "# Combined stdout/stderr, removed when the run ends / 合并的输出，运行结束时删除",
    "log = \"target/check.log\""
  ],
  [
    "[[groups.steps]]",
    "label = \"building feature {feature} for {target}\"",
    "[[groups.steps.commands]]",
    "run = \"cargo build --no-default-features --features {feature} --target {target}\"",
    "log = \"target/check.log\""
  ],
  [
    "[[groups.steps]]",
    "label = \"linting feature {feature}\"",
    "[[groups.steps.commands]]",
    "run = \"cargo clippy --no-default-features --features {feature} -- -D warnings\""
  ],
  [
    "[[groups.steps]]",
    "label = \"testing feature {feature}\"",
    "[[groups.steps.commands]]",
    "run = \"cargo test --no-default-features --features {feature}\""
  ],
  [
    "[[groups]]",
    "name = \"abi-gen\"",
    "description = \"Test the ABI generator\""
  ],
  [
    "[[groups.steps]]",
    "label = \"testing abi-gen\"",
    "[[groups.steps.commands]]",
    "run = \"cargo test -p abi-gen\""
  ],
  [
    "[[groups]]",
    "name = \"examples\"",
    "description = \"Check every example project independently\""
  ],
  [
    "[[groups.steps]]",
    "label = \"checking formatting of {example}\"",
    "dir = \"{example}\"",
    "[[groups.steps.commands]]",
    "run = \"cargo fmt -- --check\""
  ],
  [
    "[[groups.steps]]",
    "label = \"testing {example}\"",
    "dir = \"{example}\"",
    "[[groups.steps.commands]]",
    "run = \"cargo test\""
  ]]

/-- The configuration that is written: its paragraphs with an empty line between them. -/
def firstConfig : String :=
  "\n".intercalate (firstConfigParagraphs.map fun lines => String.join (lines.map (· ++ "\n")))

/-! ### Writing it -/

/-- Why no configuration is written. -/
inductive InitError
  | fileExists (output : Path)
  | directoryNotCreated (dir : Path) (cause : FileError)
  | writeFailed (output : Path) (cause : FileError)
  deriving DecidableEq, Repr

/-- What is reported for it. -/
def InitError.message (w : Wording) : InitError → String
  | fileExists output => w.fileExists output.shown
  | directoryNotCreated dir cause => w.directoryNotCreated dir.shown ++ ": " ++ cause.message
  | writeFailed output cause => w.writeFailed output.shown ++ ": " ++ cause.message

/-- Makes the directory that a file is to lie in, unless it is there. -/
def makeRoom (t : FileTree) (output : Path) : FileTree × Except InitError Unit :=
  match output.parent? with
  | none => (t, .ok ())
  | some dir =>
    if dir.isEmpty || t.pathExists dir then (t, .ok ())
    else
      match t.makeDirs dir with
      | (t, .ok ()) => (t, .ok ())
      | (t, .error cause) => (t, .error (.directoryNotCreated dir cause))

/-- Writes the configuration and shows what was done. -/
def writeFirstConfig (v : Voice) (output : Path) (force : Bool) (t : FileTree) :
    FileTree × Transcript × Except InitError Unit :=
  if t.pathExists output && !force then
    (t, Transcript.ofText .out (v.paint .yellow v.wording.useForce ++ "\n"),
      .error (.fileExists output))
  else
    match makeRoom t output with
    | (t, .error e) => (t, [], .error e)
    | (t, .ok ()) =>
      match t.writeFile output (Text.encode firstConfig.toList) with
      | .error cause => (t, [], .error (.writeFailed output cause))
      | .ok written =>
        (written,
          Transcript.ofText .out (v.paint .green (v.wording.created output.shown) ++ "\n"), .ok ())

end CheckMatrix
