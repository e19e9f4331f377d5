/-
Configurations as values of a configuration file.

`toValue` writes every setting except those that are empty or absent where reading puts the same
back.  `ofValue?` reads a value, in which keys that mean nothing are read past; a record may also be
written as an array that begins with its parts in the order of `toValue`.
-/
import CheckMatrix.Config
import CheckMatrix.Toml.Value

namespace CheckMatrix

open Toml

/-! ### Command templates -/

/-- The form of a command template. -/
def CommandTemplate.toValue (c : CommandTemplate) : Value :=
  .table (entry "run" (.string c.run) ++ c.dir.toList.flatMap (entry "dir" <| .string ·) ++
    c.log.toList.flatMap (entry "log" <| .string ·))

/-- The command template that a value is the form of. -/
def CommandTemplate.ofValue? (v : Value) : Option CommandTemplate := do
  guard (v.strangersReadable ["run", "dir", "log"])
  let run ← v.required? "run" 0 Value.text?
  let dir ← v.optional? "dir" 1 none fun part => part.text?.map some
  let log ← v.optional? "log" 2 none fun part => part.text?.map some
  return ⟨run, dir, log⟩

/-! ### Step templates -/

/-- The form of a step template. -/
def StepTemplate.toValue (t : StepTemplate) : Value :=
  .table (entry "label" (.string t.label) ++ t.dir.toList.flatMap (entry "dir" <| .string ·) ++
    entry "commands" (.array (t.commands.map CommandTemplate.toValue)))

/-- The step template that a value is the form of. -/
def StepTemplate.ofValue? (v : Value) : Option StepTemplate := do
  guard (v.strangersReadable ["label", "dir", "commands"])
  let label ← v.required? "label" 0 Value.text?
  let dir ← v.optional? "dir" 1 none fun part => part.text?.map some
  let commands ← v.required? "commands" 2 (Value.list? CommandTemplate.ofValue?)
  return ⟨label, dir, commands⟩

/-! ### Groups -/

/-- The form of a group. -/
def Group.toValue (g : Group) : Value :=
  .table (entry "name" (.string g.name) ++
    entryIf (!g.description.isEmpty) "description" (.string g.description) ++
    entry "steps" (.array (g.steps.map StepTemplate.toValue)))

/-- The group that a value is the form of. -/
def Group.ofValue? (v : Value) : Option Group := do
  guard (v.strangersReadable ["name", "description", "steps"])
  let name ← v.required? "name" 0 Value.text?
  let description ← v.optional? "description" 1 "" Value.text?
  let steps ← v.required? "steps" 2 (Value.list? StepTemplate.ofValue?)
  return ⟨name, description, steps⟩

/-! ### Axes -/

/-- The form of an axis. -/
def AxisSource.toValue (a : AxisSource) : Value :=
  .table (entry "name" (.string a.name) ++ entry "values" (ofTexts a.values) ++
    entryIf (!a.dirsIn.isEmpty) "dirs_in" (ofTexts a.dirsIn))

/-- The axis that a value is the form of. -/
def AxisSource.ofValue? (v : Value) : Option AxisSource := do
  guard (v.strangersReadable ["name", "values", "dirs_in"])
  let name ← v.required? "name" 0 Value.text?
  let values ← v.optional? "values" 1 [] (Value.list? Value.text?)
  let dirsIn ← v.optional? "dirs_in" 2 [] (Value.list? Value.text?)
  return ⟨name, values, dirsIn⟩

/-! ### The environment table -/

/-- The form of a table of variables. -/
def EnvTable.toValue (t : EnvTable) : Value :=
  .table (t.entries.map fun e => (e.1, .string e.2))

/-- The table of variables that a value is the form of. -/
def EnvTable.ofValue? (v : Value) : Option EnvTable :=
  v.texts?.map EnvTable.ofList

/-! ### Whole configurations -/

/-- The form of a configuration. -/
def Config.toValue (c : Config) : Value :=
  .table (entry "language" (.string c.language) ++ entry "env" c.env.toValue ++
    c.defaultGroups.toList.flatMap (entry "default_groups" <| ofTexts ·) ++
    entry "axes" (.array (c.axes.map AxisSource.toValue)) ++
    entry "groups" (.array (c.groups.map Group.toValue)))

/-- The configuration that a value is the form of. -/
def Config.ofValue? (v : Value) : Option Config := do
  guard (v.strangersReadable ["language", "env", "default_groups", "axes", "groups"])
  let language ← v.optional? "language" 0 Config.defaultLanguage Value.text?
  let env ← v.optional? "env" 1 EnvTable.empty EnvTable.ofValue?
  let defaultGroups ← v.optional? "default_groups" 2 none fun part =>
    (part.list? Value.text?).map some
  let axes ← v.optional? "axes" 3 [] (Value.list? AxisSource.ofValue?)
  let groups ← v.required? "groups" 4 (Value.list? Group.ofValue?)
  return ⟨language, env, defaultGroups, axes, groups⟩

end CheckMatrix
