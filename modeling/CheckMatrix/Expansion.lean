/-
From step templates to steps.

A template stands for one step per combination of the values of the axes it refers to.  The axes
are taken in configured order, and a cursor with one place per axis moves over their values like the
wheels of a counter, the last one fastest.  How often it moves is settled beforehand: the number of
combinations is counted in 64-bit words, and room for as many steps is asked for at once.  No list
may take more bytes than a signed word can count; where the steps would, everything breaks off
before the first of them is made.

A command line is cut into words before anything is filled in, so a value never splits a word.
What is checked comes in a fixed order: command lines, unknown axes, axes without values, room,
variables, repeated names.
-/
import CheckMatrix.Axis
import CheckMatrix.Command
import CheckMatrix.Config
import CheckMatrix.Text.Placeholder
import CheckMatrix.Text.Variables

namespace CheckMatrix

/-! ### What a template refers to -/

/-- The texts of a command template in which placeholders count. -/
def CommandTemplate.texts (c : CommandTemplate) : List String :=
  c.run :: (c.dir.toList ++ c.log.toList)

/-- The texts of a step template in which placeholders count. -/
def StepTemplate.texts (t : StepTemplate) : List String :=
  t.label :: (t.dir.toList ++ t.commands.flatMap CommandTemplate.texts)

/-- The names of the axes a template refers to, in order of first appearance. -/
def StepTemplate.referencedAxes (t : StepTemplate) : List String :=
  keepFirst (· = ·) ((t.texts.flatMap Piece.scan).filterMap Piece.axis?)

/-! ### Combinations -/

/-- The number of combinations of the values of some axes. -/
def combinations (axes : List Axis) : Nat :=
  (axes.map (·.values.length)).foldr (· * ·) 1

/-- The number of combinations as a 64-bit word holds it. -/
def countedCombinations (axes : List Axis) : Nat :=
  combinations axes % Nat.pow 2 64

/-- A place in the list of values of each of some axes. -/
abbrev Cursor := List Nat

/-- The cursor at the first value of every axis. -/
def Cursor.first (axes : List Axis) : Cursor :=
  axes.map fun _ => 0

/-- The value of each axis that a cursor stands at. -/
def Cursor.binding : List Axis → Cursor → Binding
  | axis :: axes, place :: cursor =>
    (axis.name, axis.values.getD place "") :: binding axes cursor
  | _, _ => []

/-- Moves a cursor on by one, and tells whether it came round to where it began.  The last axis
moves every time, any other one when those behind it come round. -/
def Cursor.advance : List Axis → Cursor → Cursor × Bool
  | axis :: axes, place :: cursor =>
    match advance axes cursor with
    | (moved, false) => (place :: moved, false)
    | (moved, true) =>
      if place + 1 < axis.values.length then ((place + 1) :: moved, false) else (0 :: moved, true)
  | _, _ => ([], true)

/-- The cursors that are met from one on, as many as asked for. -/
def Cursor.walk (axes : List Axis) : (count : Nat) → Cursor → List Cursor
  | 0, _ => []
  | count + 1, cursor => cursor :: walk axes count (advance axes cursor).1

/-! ### One step -/

/-- A command line cut into words, with the directory and the log file it will have. -/
structure SplitCommand where
  words : List String
  dir : String
  log : Option String
  deriving DecidableEq, Repr

/-- Cuts the line of a command into words; a line that cannot be cut or has no word is refused. -/
def SplitCommand.ofTemplate (t : StepTemplate) (c : CommandTemplate) :
    Except ConfigError SplitCommand :=
  match Words.split (Marks.mark c.run) with
  | some (program :: args) => .ok ⟨program :: args, (c.dir.or t.dir).getD ".", c.log⟩
  | _ => .error (.invalidCommand t.label c.run)

/-- Expands the variables of a text and a tilde at its front.  A tilde that a value brings to the
front stays as it is. -/
def expandVariables (env : Environment) (text : String) : Except Variables.Undefined String :=
  match Variables.substitute env.lookup text with
  | .error e => .error e
  | .ok expanded =>
    .ok (if text.toList.head? = some '~' then
      Variables.expandTilde env.process.home? expanded
    else expanded)

/-- Fills in one word, directory or log file of a template. -/
def expandWord (env : Environment) (t : StepTemplate) (binding : Binding) (word : String) :
    Except ConfigError String :=
  let filled := interpolate word binding
  match expandVariables env filled with
  | .ok expanded => .ok (Marks.unmark expanded)
  | .error e => .error (.undefinedVariable t.label (Marks.unmark filled) e.message)

/-- Fills in one command: its words, then its directory, then its log file. -/
def SplitCommand.instantiate (env : Environment) (t : StepTemplate) (binding : Binding)
    (c : SplitCommand) : Except ConfigError Command := do
  let words ← c.words.mapM (expandWord env t binding)
  let dir ← expandWord env t binding c.dir
  let log ← c.log.mapM (expandWord env t binding)
  return ⟨words.headD "", words.tail, .ofText dir, log.map Path.ofText⟩

/-- The step that a template makes of one combination. -/
def StepTemplate.instantiate (env : Environment) (t : StepTemplate) (commands : List SplitCommand)
    (binding : Binding) : Except ConfigError Step := do
  let commands ← commands.mapM (SplitCommand.instantiate env t binding)
  return ⟨interpolate t.label binding, "", commands⟩

/-! ### All steps of a template -/

/-- The command lines of a template cut into words; a template without commands is refused. -/
def StepTemplate.splitCommands (t : StepTemplate) : Except ConfigError (List SplitCommand) := do
  let commands ← t.commands.mapM (SplitCommand.ofTemplate t)
  if commands.isEmpty then .error (.invalidCommand t.label "") else return commands

/-- The axes that a template refers to, in configured order.  Each must be known and have
values. -/
def StepTemplate.usedAxes (t : StepTemplate) (axes : List Axis) :
    Except ConfigError (List Axis) :=
  let referenced := t.referencedAxes
  match referenced.find? fun name => !axes.any (·.name = name) with
  | some unknown => .error (.unknownAxis t.label unknown)
  | none =>
    let used := axes.filter fun axis => referenced.contains axis.name
    match used.find? (·.values.isEmpty) with
    | some axis => .error (.emptyAxis axis.name t.label)
    | none => .ok used

/-- The bytes that a step takes in a list: a name, a group and commands, three words each. -/
def stepSize : Nat := 3 * 3 * 8

/-- The most steps that a list may have room for. -/
def mostSteps : Nat := (Nat.pow 2 63 - 1) / stepSize

/-- Asks for room for some steps at once. -/
def askRoom (count : Nat) : Except PlanError Unit :=
  if count ≤ mostSteps then .ok () else .error .overflow

/-- The steps of one template, one per combination. -/
def expandTemplate (env : Environment) (axes : List Axis) (t : StepTemplate) :
    Except PlanError (List Step) := do
  let commands ← checked t.splitCommands
  let used ← checked (t.usedAxes axes)
  askRoom (countedCombinations used)
  checked <| (Cursor.walk used (countedCombinations used) (.first used)).mapM fun cursor =>
    t.instantiate env commands (cursor.binding used)

/-! ### All steps of a list of templates -/

/-- Refuses a list of steps if one has a name that is taken, and otherwise returns the names taken
with it. -/
def takeNames (taken : List String) (steps : List Step) : Except ConfigError (List String) :=
  match firstRepeat? taken (steps.map Step.name) with
  | some name => .error (.duplicateStep name)
  | none => .ok (taken ++ steps.map Step.name)

/-- The steps of some templates when the names `taken` are used already. -/
def expandFrom (env : Environment) (axes : List Axis) :
    (taken : List String) → List StepTemplate → Except PlanError (List Step)
  | _, [] => .ok []
  | taken, t :: rest => do
    let steps ← expandTemplate env axes t
    let taken ← checked (takeNames taken steps)
    let others ← expandFrom env axes taken rest
    return steps ++ others

/-- The steps of some templates, in order.  Two steps may not share a name. -/
def expand (env : Environment) (axes : List Axis) (templates : List StepTemplate) :
    Except PlanError (List Step) :=
  expandFrom env axes [] templates

end CheckMatrix
