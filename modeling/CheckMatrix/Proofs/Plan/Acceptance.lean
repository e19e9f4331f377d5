/-
What is expanded, and why what is not is refused.

The conditions are stated of the templates and not of the stages that check them: a template has
commands and their lines can be cut into words, the axes that it refers to are there and have
values, there is room for its steps, and every text that is filled in has its variables
(`StepTemplate.Expands`).  Templates are expanded exactly when all of them meet these conditions and
no name comes twice.

Otherwise the first template that does not fit in is to blame, and what is reported about it is the
first of its faults: each kind of fault is looked for only when there is none of the kinds before
it, and of one kind the first in order counts (`StepTemplate.Fault`).  Faults of variables are found in
the midst of a nested walk over combinations, commands and texts; the walk comes to one pass over
the texts of a template for each combination (`StepTemplate.refusal?_instantiate`).

Room is asked for before the walk, so a template with too many combinations is never found to miss
a variable, be it in the first of them: everything breaks off.
-/
import CheckMatrix.Proofs.Plan.Enumeration
import CheckMatrix.Proofs.Text.Comments

namespace CheckMatrix

/-! ### What is filled in -/

/-- The line of a command can be cut into words, and has some. -/
def CommandTemplate.Cuts (c : CommandTemplate) : Prop :=
  ∃ program args, Words.split c.run = some (program :: args)

/-- The words of a command, with stand-ins for what is literal in them. -/
def CommandTemplate.words (c : CommandTemplate) : List String :=
  (Words.split (Marks.mark c.run)).getD []

/-- A command with the directory and the log file that it will have. -/
def StepTemplate.cutCommand (t : StepTemplate) (c : CommandTemplate) : SplitCommand :=
  ⟨c.words, (c.dir.or t.dir).getD ".", c.log⟩

/-- The texts of a command that are filled in, in order. -/
def SplitCommand.texts (c : SplitCommand) : List String :=
  c.words ++ c.dir :: c.log.toList

/-- The texts that are filled in for the commands of a template, in order. -/
def StepTemplate.fillings (t : StepTemplate) : List String :=
  t.commands.flatMap fun c => (t.cutCommand c).texts

/-- The axes that a template refers to, in configured order. -/
def StepTemplate.axesOf (axes : List Axis) (t : StepTemplate) : List Axis :=
  axes.filter fun axis => t.referencedAxes.contains axis.name

/-- The combinations that a template stands for, the first axis slowest. -/
def StepTemplate.bindingsOf (axes : List Axis) (t : StepTemplate) : List Binding :=
  bindingsOver ((t.axesOf axes).map Axis.entry)

/-- The names of the steps that a template stands for. -/
def StepTemplate.namesOf (axes : List Axis) (t : StepTemplate) : List String :=
  (t.bindingsOf axes).map (interpolate t.label)

/-! ### What is asked of a template -/

/-- A template has commands, and their lines can be cut. -/
def StepTemplate.Cuts (t : StepTemplate) : Prop :=
  t.commands ≠ [] ∧ ∀ c ∈ t.commands, c.Cuts

/-- There is an axis of this name. -/
def Known (axes : List Axis) (name : String) : Prop :=
  ∃ axis ∈ axes, axis.name = name

/-- All variables of a text are defined. -/
def Environment.Defines (env : Environment) (text : String) : Prop :=
  ∃ expanded, Variables.substitute env.lookup text = .ok expanded

/-- Under this combination all texts of a template have their variables. -/
def StepTemplate.DefinedUnder (env : Environment) (t : StepTemplate) (b : Binding) : Prop :=
  ∀ text ∈ t.fillings, env.Defines (interpolate text b)

/-- Nothing is wrong with a template by itself. -/
structure StepTemplate.Expands (env : Environment) (axes : List Axis) (t : StepTemplate) :
    Prop where
  cuts : t.Cuts
  known : ∀ name ∈ t.referencedAxes, Known axes name
  filled : Filled (t.axesOf axes)
  room : combinations (t.axesOf axes) ≤ mostSteps
  defined : ∀ b ∈ t.bindingsOf axes, t.DefinedUnder env b

/-- What is reported about a template when some names are taken.  Each fault presupposes that there
is none of the kinds above it. -/
inductive StepTemplate.Fault (env : Environment) (axes : List Axis) (taken : List String)
    (t : StepTemplate) : PlanError → Prop
  /-- The first line that cannot be cut, -/
  | line {c : CommandTemplate} (h : FirstOf (fun c => ¬ c.Cuts) t.commands c) :
      t.Fault env axes taken (.config (.invalidCommand t.label c.run))
  /-- no command at all, -/
  | noCommand (h : t.commands = []) :
      t.Fault env axes taken (.config (.invalidCommand t.label ""))
  /-- the first name that no axis has, -/
  | unknownAxis {name : String} (hcuts : t.Cuts)
      (h : FirstOf (fun name => ¬ Known axes name) t.referencedAxes name) :
      t.Fault env axes taken (.config (.unknownAxis t.label name))
  /-- the first axis that has no value, -/
  | emptyAxis {axis : Axis} (hcuts : t.Cuts) (hknown : ∀ name ∈ t.referencedAxes, Known axes name)
      (h : FirstOf (fun axis => axis.values = []) (t.axesOf axes) axis) :
      t.Fault env axes taken (.config (.emptyAxis axis.name t.label))
  /-- more combinations than there can be room for, -/
  | overflow (hcuts : t.Cuts) (hknown : ∀ name ∈ t.referencedAxes, Known axes name)
      (hfilled : Filled (t.axesOf axes)) (h : mostSteps < combinations (t.axesOf axes)) :
      t.Fault env axes taken .overflow
  /-- under the first combination that misses one, the first text in which a variable is missing, -/
  | undefinedVariable {b : Binding} {text : String} {u : Variables.Undefined} (hcuts : t.Cuts)
      (hknown : ∀ name ∈ t.referencedAxes, Known axes name) (hfilled : Filled (t.axesOf axes))
      (hroom : combinations (t.axesOf axes) ≤ mostSteps)
      (hb : FirstOf (fun b => ¬ t.DefinedUnder env b) (t.bindingsOf axes) b)
      (htext : FirstOf (fun text => ¬ env.Defines (interpolate text b)) t.fillings text)
      (hu : Variables.substitute env.lookup (interpolate text b) = .error u) :
      t.Fault env axes taken
        (.config (.undefinedVariable t.label (Marks.unmark (interpolate text b)) u.message))
  /-- and the first name of a step that is taken or was given before. -/
  | duplicateStep {name : String} {before after : List String} (h : t.Expands env axes)
      (hnames : t.namesOf axes = before ++ name :: after)
      (hbefore : before.Nodup ∧ ∀ other ∈ before, other ∉ taken)
      (hname : name ∈ taken ∨ name ∈ before) :
      t.Fault env axes taken (.config (.duplicateStep name))

/-! ### Lines -/

/-- Marking does not change whether a line can be cut. -/
theorem CommandTemplate.cuts_iff {c : CommandTemplate} :
    c.Cuts ↔ ∃ program args, Words.split (Marks.mark c.run) = some (program :: args) := by
  have hiff : ∀ words : Option (List String),
      (∃ program args, words = some (program :: args)) ↔
        ∃ n, words.map List.length = some (n + 1) := by
    intro words
    rcases words with _ | _ | ⟨program, args⟩ <;> simp
  rw [CommandTemplate.Cuts, hiff, hiff, Words.length_split_mark]

theorem SplitCommand.ofTemplate_of_cuts {t : StepTemplate} {c : CommandTemplate} (h : c.Cuts) :
    SplitCommand.ofTemplate t c = .ok (t.cutCommand c) := by
  obtain ⟨program, args, hsplit⟩ := CommandTemplate.cuts_iff.1 h
  rw [SplitCommand.ofTemplate, StepTemplate.cutCommand, CommandTemplate.words, hsplit]
  rfl

theorem SplitCommand.ofTemplate_of_not {t : StepTemplate} {c : CommandTemplate} (h : ¬ c.Cuts) :
    SplitCommand.ofTemplate t c = .error (.invalidCommand t.label c.run) := by
  rw [CommandTemplate.cuts_iff] at h
  unfold SplitCommand.ofTemplate
  split
  · rename_i program args hsplit
    exact absurd ⟨program, args, hsplit⟩ h
  · rfl

theorem SplitCommand.not_cuts_iff {t : StepTemplate} (c : CommandTemplate) :
    ¬ c.Cuts ↔ ∃ e, SplitCommand.ofTemplate t c = .error e := by
  refine ⟨fun h => ⟨_, SplitCommand.ofTemplate_of_not h⟩, ?_⟩
  rintro ⟨e, he⟩ h
  rw [SplitCommand.ofTemplate_of_cuts h] at he
  cases he

theorem StepTemplate.splitCommands_of_cuts {t : StepTemplate} (h : t.Cuts) :
    t.splitCommands = .ok (t.commands.map t.cutCommand) := by
  have hall : t.commands.mapM (SplitCommand.ofTemplate t) = .ok (t.commands.map t.cutCommand) := by
    refine mapM_eq_ok_iff.2 (List.forall₂_map_right_iff.2 (List.forall₂_same.2 fun c hc => ?_))
    exact SplitCommand.ofTemplate_of_cuts (h.2 c hc)
  refine bind_eq_ok_iff.2 ⟨_, hall, ?_⟩
  rw [if_neg]
  · rfl
  · simpa using h.1

theorem StepTemplate.splitCommands_eq_error_iff {t : StepTemplate} {e : ConfigError} :
    t.splitCommands = .error e ↔
      (∃ c, FirstOf (fun c => ¬ c.Cuts) t.commands c ∧ e = .invalidCommand t.label c.run) ∨
        t.commands = [] ∧ e = .invalidCommand t.label "" := by
  unfold StepTemplate.splitCommands
  rw [bind_eq_error_iff, mapM_eq_error_iff (SplitCommand.not_cuts_iff (t := t))]
  refine or_congr (exists_congr fun c => and_congr_right fun hc => ?_) ?_
  · rw [SplitCommand.ofTemplate_of_not hc.holds, Except.error.injEq]
    exact eq_comm
  · constructor
    · rintro ⟨commands, hcommands, h⟩
      split at h
      · rename_i hempty
        rw [List.isEmpty_iff.1 hempty, mapM_eq_ok_iff, List.forall₂_nil_right_iff] at hcommands
        exact ⟨hcommands, (Except.error.inj h).symm⟩
      · cases h
    · rintro ⟨hempty, rfl⟩
      rw [hempty]
      exact ⟨[], rfl, rfl⟩

theorem StepTemplate.cuts_of_splitCommands {t : StepTemplate} {commands : List SplitCommand}
    (h : t.splitCommands = .ok commands) : t.Cuts := by
  have hnone : ∀ e, t.splitCommands ≠ .error e := by
    intro e he
    rw [h] at he
    cases he
  constructor
  · exact fun hempty => hnone _ (StepTemplate.splitCommands_eq_error_iff.2 (.inr ⟨hempty, rfl⟩))
  · obtain ⟨cut, hcut, -⟩ := bind_eq_ok_iff.1 h
    intro c hc
    by_contra hnot
    obtain ⟨e, he⟩ := (SplitCommand.not_cuts_iff (t := t) c).1 hnot
    obtain ⟨s, -, hs⟩ := exists_of_mem_forall₂ (mapM_eq_ok_iff.1 hcut).flip hc
    rw [he] at hs
    cases hs

/-! ### Axes -/

section Axes

variable {t : StepTemplate} {axes : List Axis}

theorem unknown_iff (name : String) :
    (!axes.any (·.name = name)) = true ↔ ¬ Known axes name := by
  simp [Known]

theorem known_iff_find? {names : List String} : (∀ name ∈ names, Known axes name) ↔
    names.find? (fun name => !axes.any (·.name = name)) = none := by
  rw [List.find?_eq_none]
  exact forall₂_congr fun name _ => by rw [unknown_iff, not_not]

theorem filled_iff_find? : Filled axes ↔ axes.find? (·.values.isEmpty) = none := by
  rw [List.find?_eq_none]
  exact forall₂_congr fun axis _ => not_congr List.isEmpty_iff.symm

theorem StepTemplate.usedAxes_eq_error_iff {e : ConfigError} :
    t.usedAxes axes = .error e ↔
      (∃ name, FirstOf (fun name => ¬ Known axes name) t.referencedAxes name ∧
          e = .unknownAxis t.label name) ∨
        (∀ name ∈ t.referencedAxes, Known axes name) ∧
          ∃ axis, FirstOf (fun axis => axis.values = []) (t.axesOf axes) axis ∧
            e = .emptyAxis axis.name t.label := by
  simp only [firstOf_iff_find? unknown_iff, known_iff_find?,
    firstOf_iff_find? fun axis : Axis => List.isEmpty_iff (l := axis.values)]
  unfold StepTemplate.usedAxes
  dsimp only
  rw [← StepTemplate.axesOf]
  cases t.referencedAxes.find? fun name => !axes.any (·.name = name) with
  | some unknown => simp [eq_comm (a := e)]
  | none => cases (t.axesOf axes).find? (·.values.isEmpty) <;> simp [eq_comm (a := e)]

theorem StepTemplate.usedAxes_eq_ok_iff {used : List Axis} :
    t.usedAxes axes = .ok used ↔
      (∀ name ∈ t.referencedAxes, Known axes name) ∧ Filled (t.axesOf axes) ∧
        used = t.axesOf axes := by
  rw [known_iff_find?, filled_iff_find?]
  unfold StepTemplate.usedAxes
  dsimp only
  rw [← StepTemplate.axesOf]
  cases t.referencedAxes.find? fun name => !axes.any (·.name = name) with
  | some unknown => simp
  | none => cases (t.axesOf axes).find? (·.values.isEmpty) <;> simp [eq_comm (a := used)]

end Axes

/-! ### Texts -/

section Texts

variable {env : Environment} {t : StepTemplate} {b : Binding}

theorem expandWord_eq_error_iff {text : String} {e : ConfigError} :
    expandWord env t b text = .error e ↔
      ∃ u, Variables.substitute env.lookup (interpolate text b) = .error u ∧
        e = .undefinedVariable t.label (Marks.unmark (interpolate text b)) u.message := by
  unfold expandWord expandVariables
  dsimp only
  cases Variables.substitute env.lookup (interpolate text b) <;> simp [eq_comm (a := e)]

theorem not_defines_iff (text : String) :
    ¬ env.Defines (interpolate text b) ↔ ∃ e, expandWord env t b text = .error e := by
  unfold Environment.Defines
  simp only [expandWord_eq_error_iff]
  cases Variables.substitute env.lookup (interpolate text b) <;> simp

/-- Filling in a command is refused as filling in its texts one after the other is. -/
theorem SplitCommand.refusal?_instantiate (c : SplitCommand) :
    refusal? (c.instantiate env t b) = refusal? (c.texts.mapM (expandWord env t b)) := by
  have hlog : refusal? (c.log.mapM (expandWord env t b)) =
      refusal? (c.log.toList.mapM (expandWord env t b)) := by
    cases c.log with
    | none => rfl
    | some log =>
        rw [Option.mapM_some, Option.toList_some, List.mapM_cons]
        cases expandWord env t b log <;> rfl
  rw [SplitCommand.texts, refusal?_mapM_append, ← List.singleton_append, refusal?_mapM_append,
    ← hlog]
  refine refusal?_bind fun words _ => ?_
  have hdir : refusal? ([c.dir].mapM (expandWord env t b)) =
      refusal? (expandWord env t b c.dir) := by
    rw [List.mapM_cons, List.mapM_nil]
    cases expandWord env t b c.dir <;> rfl
  rw [hdir]
  refine refusal?_bind fun dir _ => ?_
  cases c.log.mapM (expandWord env t b) <;> rfl

/-- **A step is refused as filling in all texts of its commands one after the other is.** -/
theorem StepTemplate.refusal?_instantiate (commands : List SplitCommand) :
    refusal? (t.instantiate env commands b) =
      refusal? ((commands.flatMap SplitCommand.texts).mapM (expandWord env t b)) := by
  have hcommands : refusal? (t.instantiate env commands b) =
      refusal? (commands.mapM (SplitCommand.instantiate env t b)) := by
    unfold StepTemplate.instantiate
    cases commands.mapM (SplitCommand.instantiate env t b) <;> rfl
  rw [hcommands]
  clear hcommands
  induction commands with
  | nil => rfl
  | cons c rest ih =>
      rw [List.flatMap_cons, refusal?_mapM_append, ← ih, ← SplitCommand.refusal?_instantiate,
        List.mapM_cons]
      refine refusal?_bind fun first _ => ?_
      cases rest.mapM (SplitCommand.instantiate env t b) <;> rfl

/-- The commands of a template, cut into words, have the texts that are filled in. -/
theorem StepTemplate.flatMap_texts (t : StepTemplate) :
    (t.commands.map t.cutCommand).flatMap SplitCommand.texts = t.fillings :=
  List.flatMap_map ..

theorem StepTemplate.instantiate_eq_error_iff {e : ConfigError} :
    t.instantiate env (t.commands.map t.cutCommand) b = .error e ↔
      ∃ text, FirstOf (fun text => ¬ env.Defines (interpolate text b)) t.fillings text ∧
        expandWord env t b text = .error e := by
  rw [← refusal?_eq_some_iff, StepTemplate.refusal?_instantiate, refusal?_eq_some_iff,
    StepTemplate.flatMap_texts, mapM_eq_error_iff not_defines_iff]

theorem StepTemplate.not_definedUnder_iff (b : Binding) :
    ¬ t.DefinedUnder env b ↔ ∃ e, t.instantiate env (t.commands.map t.cutCommand) b = .error e := by
  simp only [StepTemplate.instantiate_eq_error_iff]
  constructor
  · intro h
    unfold StepTemplate.DefinedUnder at h
    push Not at h
    obtain ⟨text, hfirst⟩ := exists_firstOf h
    obtain ⟨e, he⟩ := (not_defines_iff text).1 hfirst.holds
    exact ⟨e, text, hfirst, he⟩
  · rintro ⟨e, text, hfirst, -⟩ h
    exact hfirst.holds (h text hfirst.mem)

end Texts

/-! ### Templates -/

section Templates

variable {env : Environment} {axes : List Axis} {t : StepTemplate}

theorem countedCombinations_eq {used : List Axis} (hcount : combinations used < 2 ^ 64) :
    countedCombinations used = combinations used :=
  Nat.mod_eq_of_lt hcount

/-- A step for each cursor of a walk is a step for each combination, if these can be counted. -/
theorem mapM_walk {used : List Axis} (hfilled : Filled used) (hcount : combinations used < 2 ^ 64)
    (f : Binding → Except ConfigError Step) :
    ((Cursor.walk used (countedCombinations used) (.first used)).mapM fun cursor =>
        f (cursor.binding used)) = (bindingsOver (used.map Axis.entry)).mapM f := by
  have hwalk := Cursor.walk_bindings hfilled
  rw [countedCombinations_eq hcount]
  change _ = List.mapM f (bindingsOver (used.map fun axis => (axis.name, axis.values)))
  rw [← hwalk, List.mapM_map]
  rfl

/-- The stages of a template that is refused. -/
theorem expandTemplate_eq_error_iff (hcount : combinations (t.axesOf axes) < 2 ^ 64)
    {e : PlanError} :
    expandTemplate env axes t = .error e ↔
      checked t.splitCommands = .error e ∨
        t.Cuts ∧ (checked (t.usedAxes axes) = .error e ∨
          ((∀ name ∈ t.referencedAxes, Known axes name) ∧ Filled (t.axesOf axes)) ∧
            (mostSteps < combinations (t.axesOf axes) ∧ e = .overflow ∨
              combinations (t.axesOf axes) ≤ mostSteps ∧
                ∃ b, FirstOf (fun b => ¬ t.DefinedUnder env b) (t.bindingsOf axes) b ∧
                  checked (t.instantiate env (t.commands.map t.cutCommand) b) = .error e)) := by
  rw [expandTemplate_refused]
  refine or_congr_right ?_
  constructor
  · rintro ⟨commands, hcommands, h⟩
    have hcuts := t.cuts_of_splitCommands hcommands
    rw [t.splitCommands_of_cuts hcuts] at hcommands
    cases hcommands
    refine ⟨hcuts, h.imp_right ?_⟩
    rintro ⟨used, hused, h⟩
    obtain ⟨hknown, hfilled, rfl⟩ := StepTemplate.usedAxes_eq_ok_iff.1 hused
    rw [mapM_walk hfilled hcount, countedCombinations_eq hcount,
      checked_mapM_eq_error_iff StepTemplate.not_definedUnder_iff] at h
    exact ⟨⟨hknown, hfilled⟩, h⟩
  · rintro ⟨hcuts, h⟩
    refine ⟨_, t.splitCommands_of_cuts hcuts, h.imp_right ?_⟩
    rintro ⟨⟨hknown, hfilled⟩, h⟩
    refine ⟨_, StepTemplate.usedAxes_eq_ok_iff.2 ⟨hknown, hfilled, rfl⟩, ?_⟩
    rw [mapM_walk hfilled hcount, countedCombinations_eq hcount,
      checked_mapM_eq_error_iff StepTemplate.not_definedUnder_iff]
    exact h

/-- A template that is expanded has steps of the names it stands for. -/
theorem expandTemplate_eq_ok (hcount : combinations (t.axesOf axes) < 2 ^ 64) {steps : List Step}
    (h : expandTemplate env axes t = .ok steps) :
    t.Expands env axes ∧ steps.map Step.name = t.namesOf axes := by
  obtain ⟨commands, used, hcommands, hused, hroom, h⟩ := expandTemplate_stages.1 h
  have hcuts := t.cuts_of_splitCommands hcommands
  rw [t.splitCommands_of_cuts hcuts] at hcommands
  cases hcommands
  obtain ⟨hknown, hfilled, rfl⟩ := StepTemplate.usedAxes_eq_ok_iff.1 hused
  rw [mapM_walk hfilled hcount, mapM_eq_ok_iff] at h
  rw [countedCombinations_eq hcount] at hroom
  refine ⟨⟨hcuts, hknown, hfilled, hroom, fun b hb => ?_⟩,
    map_eq_of_forall₂ (fun b step hstep => ?_) h⟩
  · by_contra hnot
    obtain ⟨e, he⟩ := (StepTemplate.not_definedUnder_iff b).1 hnot
    obtain ⟨step, -, hstep⟩ := exists_of_mem_forall₂ h.flip hb
    rw [he] at hstep
    cases hstep
  · obtain ⟨commands, -, hstep⟩ := bind_eq_ok_iff.1 hstep
    cases hstep
    rfl

/-- A template with which nothing is wrong is expanded. -/
theorem StepTemplate.Expands.steps (hcount : combinations (t.axesOf axes) < 2 ^ 64)
    (h : t.Expands env axes) : ∃ steps, expandTemplate env axes t = .ok steps := by
  cases hresult : expandTemplate env axes t with
  | ok steps => exact ⟨steps, rfl⟩
  | error e =>
      obtain hsplit | ⟨-, hused | ⟨-, ⟨hfull, -⟩ | ⟨-, b, hb, -⟩⟩⟩ :=
        (expandTemplate_eq_error_iff hcount).1 hresult
      · rw [t.splitCommands_of_cuts h.cuts] at hsplit
        cases hsplit
      · rw [StepTemplate.usedAxes_eq_ok_iff.2 ⟨h.known, h.filled, rfl⟩] at hused
        cases hused
      · exact absurd h.room (Nat.not_le.2 hfull)
      · exact absurd (h.defined b hb.mem) hb.holds

/-- What a template is refused for by itself is a fault of it, -/
theorem fault_of_expandTemplate (hcount : combinations (t.axesOf axes) < 2 ^ 64) {e : PlanError}
    (h : expandTemplate env axes t = .error e) (taken : List String) :
    t.Fault env axes taken e := by
  obtain hlines | ⟨hcuts, haxes | ⟨⟨hknown, hfilled⟩, ⟨hfull, rfl⟩ | ⟨hroom, b, hb, hstep⟩⟩⟩ :=
    (expandTemplate_eq_error_iff hcount).1 h
  · obtain ⟨cause, hsplit, rfl⟩ := checked_eq_error_iff.1 hlines
    obtain ⟨c, hc, rfl⟩ | ⟨hempty, rfl⟩ := StepTemplate.splitCommands_eq_error_iff.1 hsplit
    · exact .line hc
    · exact .noCommand hempty
  · obtain ⟨cause, hused, rfl⟩ := checked_eq_error_iff.1 haxes
    obtain ⟨name, hname, rfl⟩ | ⟨hknown, axis, haxis, rfl⟩ :=
      StepTemplate.usedAxes_eq_error_iff.1 hused
    · exact .unknownAxis hcuts hname
    · exact .emptyAxis hcuts hknown haxis
  · exact .overflow hcuts hknown hfilled hfull
  · obtain ⟨cause, hrow, rfl⟩ := checked_eq_error_iff.1 hstep
    obtain ⟨text, htext, hword⟩ := StepTemplate.instantiate_eq_error_iff.1 hrow
    obtain ⟨u, hu, rfl⟩ := expandWord_eq_error_iff.1 hword
    exact .undefinedVariable hcuts hknown hfilled hroom hb htext hu

/-- and every fault but a name that comes twice is found in the template itself. -/
theorem StepTemplate.Fault.refused (hcount : combinations (t.axesOf axes) < 2 ^ 64)
    {taken : List String} {e : PlanError} (h : t.Fault env axes taken e) :
    expandTemplate env axes t = .error e ∨
      t.Expands env axes ∧ ∃ name, firstRepeat? taken (t.namesOf axes) = some name ∧
        e = .config (.duplicateStep name) := by
  cases h with
  | line hc =>
      have hsplit := StepTemplate.splitCommands_eq_error_iff.2 (.inl ⟨_, hc, rfl⟩)
      have hchecked := checked_eq_config_iff.2 hsplit
      exact .inl ((expandTemplate_eq_error_iff hcount).2 (.inl hchecked))
  | noCommand hempty =>
      have hsplit := StepTemplate.splitCommands_eq_error_iff.2 (.inr ⟨hempty, rfl⟩)
      have hchecked := checked_eq_config_iff.2 hsplit
      exact .inl ((expandTemplate_eq_error_iff hcount).2 (.inl hchecked))
  | unknownAxis hcuts hname =>
      have hused := StepTemplate.usedAxes_eq_error_iff.2 (.inl ⟨_, hname, rfl⟩)
      have hchecked := checked_eq_config_iff.2 hused
      exact .inl ((expandTemplate_eq_error_iff hcount).2 (.inr ⟨hcuts, .inl hchecked⟩))
  | emptyAxis hcuts hknown haxis =>
      have hused := StepTemplate.usedAxes_eq_error_iff.2 (.inr ⟨hknown, _, haxis, rfl⟩)
      have hchecked := checked_eq_config_iff.2 hused
      exact .inl ((expandTemplate_eq_error_iff hcount).2 (.inr ⟨hcuts, .inl hchecked⟩))
  | overflow hcuts hknown hfilled hfull =>
      exact .inl ((expandTemplate_eq_error_iff hcount).2
        (.inr ⟨hcuts, .inr ⟨⟨hknown, hfilled⟩, .inl ⟨hfull, rfl⟩⟩⟩))
  | undefinedVariable hcuts hknown hfilled hroom hb htext hu =>
      have hword := (expandWord_eq_error_iff (t := t)).2 ⟨_, hu, rfl⟩
      have hrow := StepTemplate.instantiate_eq_error_iff.2 ⟨_, htext, hword⟩
      have hchecked := checked_eq_config_iff.2 hrow
      exact .inl ((expandTemplate_eq_error_iff hcount).2
        (.inr ⟨hcuts, .inr ⟨⟨hknown, hfilled⟩, .inr ⟨hroom, _, hb, hchecked⟩⟩⟩))
  | duplicateStep hexpands hnames hbefore hname =>
      exact .inr ⟨hexpands, _, firstRepeat?_eq_some_iff.2 ⟨_, _, hnames, hbefore, hname⟩, rfl⟩

end Templates

/-! ### Lists of templates -/

section Lists

variable {env : Environment} {axes : List Axis} {taken : List String} {t : StepTemplate}
  {rest templates : List StepTemplate}

/-- The templates can be expanded side by side, next to names that are taken. -/
structure Fit (env : Environment) (axes : List Axis) (taken : List String)
    (templates : List StepTemplate) : Prop where
  expands : ∀ t ∈ templates, t.Expands env axes
  distinct : (templates.flatMap (StepTemplate.namesOf axes)).Nodup
  fresh : ∀ name ∈ templates.flatMap (StepTemplate.namesOf axes), name ∉ taken

theorem Fit.nil : Fit env axes taken [] :=
  ⟨List.forall_mem_nil _, .nil, List.forall_mem_nil _⟩

/-- The names of the first template are taken for the others. -/
theorem fit_cons_iff :
    Fit env axes taken (t :: rest) ↔
      (t.Expands env axes ∧ firstRepeat? taken (t.namesOf axes) = none) ∧
        Fit env axes (taken ++ t.namesOf axes) rest := by
  rw [firstRepeat?_eq_none_iff]
  constructor
  · rintro ⟨hexpands, hdistinct, hfresh⟩
    obtain ⟨ht, hrest⟩ := List.forall_mem_cons.1 hexpands
    rw [List.flatMap_cons] at hdistinct hfresh
    obtain ⟨hhead, htail, hapart⟩ := List.nodup_append.1 hdistinct
    obtain ⟨hfreshHead, hfreshTail⟩ := List.forall_mem_append.1 hfresh
    refine ⟨⟨ht, hhead, hfreshHead⟩, hrest, htail, fun name hname hmem => ?_⟩
    rcases List.mem_append.1 hmem with hmem | hmem
    · exact hfreshTail name hname hmem
    · exact hapart name hmem name hname rfl
  · rintro ⟨⟨ht, hhead, hfreshHead⟩, hrest, htail, hfreshTail⟩
    refine ⟨List.forall_mem_cons.2 ⟨ht, hrest⟩, ?_, ?_⟩
    · rw [List.flatMap_cons, List.nodup_append]
      refine ⟨hhead, htail, ?_⟩
      rintro name hmem _ hname rfl
      exact hfreshTail name hname (List.mem_append_right _ hmem)
    · rw [List.flatMap_cons]
      refine List.forall_mem_append.2 ⟨hfreshHead, fun name hname hmem => ?_⟩
      exact hfreshTail name hname (List.mem_append_left _ hmem)

theorem takeNames_eq_ok_iff {steps : List Step} {names : List String} :
    takeNames taken steps = .ok names ↔
      firstRepeat? taken (steps.map Step.name) = none ∧ names = taken ++ steps.map Step.name := by
  unfold takeNames
  cases firstRepeat? taken (steps.map Step.name) <;> simp [eq_comm (a := names)]

theorem takeNames_eq_error_iff {steps : List Step} {e : ConfigError} :
    takeNames taken steps = .error e ↔
      ∃ name, firstRepeat? taken (steps.map Step.name) = some name ∧ e = .duplicateStep name := by
  unfold takeNames
  cases firstRepeat? taken (steps.map Step.name) <;> simp [eq_comm (a := e)]

/-- One template of a list that is expanded. -/
theorem expandFrom_cons_eq_ok_iff (hcount : combinations (t.axesOf axes) < 2 ^ 64) :
    (∃ steps, expandFrom env axes taken (t :: rest) = .ok steps) ↔
      (t.Expands env axes ∧ firstRepeat? taken (t.namesOf axes) = none) ∧
        ∃ steps, expandFrom env axes (taken ++ t.namesOf axes) rest = .ok steps := by
  constructor
  · rintro ⟨_, h⟩
    obtain ⟨steps, names, others, hsteps, hnames, hothers, -⟩ := expandFrom_stages.1 h
    obtain ⟨hexpands, hmap⟩ := expandTemplate_eq_ok hcount hsteps
    obtain ⟨hnone, rfl⟩ := takeNames_eq_ok_iff.1 hnames
    rw [hmap] at hnone hothers
    exact ⟨⟨hexpands, hnone⟩, others, hothers⟩
  · rintro ⟨⟨hexpands, hnone⟩, others, hothers⟩
    obtain ⟨steps, hsteps⟩ := hexpands.steps hcount
    rw [← (expandTemplate_eq_ok hcount hsteps).2] at hnone hothers
    have hnames := takeNames_eq_ok_iff.2 ⟨hnone, rfl⟩
    exact ⟨_, expandFrom_stages.2 ⟨_, _, _, hsteps, hnames, hothers, rfl⟩⟩

/-- One template of a list that is refused: it is to blame itself, or the rest of the list is. -/
theorem expandFrom_cons_eq_error_iff (hcount : combinations (t.axesOf axes) < 2 ^ 64)
    {e : PlanError} :
    expandFrom env axes taken (t :: rest) = .error e ↔
      t.Fault env axes taken e ∨
        (t.Expands env axes ∧ firstRepeat? taken (t.namesOf axes) = none) ∧
          expandFrom env axes (taken ++ t.namesOf axes) rest = .error e := by
  rw [expandFrom, bind_eq_error_iff]
  constructor
  · rintro (h | ⟨steps, hsteps, h⟩)
    · exact .inl (fault_of_expandTemplate hcount h taken)
    · obtain ⟨hexpands, hmap⟩ := expandTemplate_eq_ok hcount hsteps
      obtain h | ⟨names, hnames, h⟩ := bind_eq_error_iff.1 h
      · obtain ⟨cause, htaken, rfl⟩ := checked_eq_error_iff.1 h
        obtain ⟨name, hname, rfl⟩ := takeNames_eq_error_iff.1 htaken
        rw [hmap] at hname
        obtain ⟨before, after, heq, hbefore, hrepeated⟩ := firstRepeat?_eq_some_iff.1 hname
        exact .inl (.duplicateStep hexpands heq hbefore hrepeated)
      · obtain ⟨hnone, rfl⟩ := takeNames_eq_ok_iff.1 (checked_eq_ok_iff.1 hnames)
        rw [hmap] at hnone h
        obtain h | ⟨others, -, h⟩ := bind_eq_error_iff.1 h
        · exact .inr ⟨⟨hexpands, hnone⟩, h⟩
        · cases h
  · rintro (hfault | ⟨⟨hexpands, hnone⟩, h⟩)
    · obtain h | ⟨hexpands, name, hname, rfl⟩ := hfault.refused hcount
      · exact .inl h
      · obtain ⟨steps, hsteps⟩ := hexpands.steps hcount
        rw [← (expandTemplate_eq_ok hcount hsteps).2] at hname
        have hnames := checked_eq_config_iff.2 (takeNames_eq_error_iff.2 ⟨name, hname, rfl⟩)
        exact .inr ⟨steps, hsteps, bind_eq_error_iff.2 (.inl hnames)⟩
    · obtain ⟨steps, hsteps⟩ := hexpands.steps hcount
      rw [← (expandTemplate_eq_ok hcount hsteps).2] at hnone h
      have hnames := checked_eq_ok_iff.2 (takeNames_eq_ok_iff.2 ⟨hnone, rfl⟩)
      exact .inr ⟨steps, hsteps, bind_eq_error_iff.2 (.inr ⟨_, hnames,
        bind_eq_error_iff.2 (.inl h)⟩)⟩

theorem expandFrom_eq_ok_iff
    (hcount : ∀ t ∈ templates, combinations (t.axesOf axes) < 2 ^ 64) :
    (∃ steps, expandFrom env axes taken templates = .ok steps) ↔ Fit env axes taken templates := by
  induction templates generalizing taken with
  | nil => exact ⟨fun _ => .nil, fun _ => ⟨[], rfl⟩⟩
  | cons t rest ih =>
      obtain ⟨ht, hrest⟩ := List.forall_mem_cons.1 hcount
      rw [expandFrom_cons_eq_ok_iff ht, fit_cons_iff, ih hrest]

theorem expandFrom_eq_error_iff
    (hcount : ∀ t ∈ templates, combinations (t.axesOf axes) < 2 ^ 64) {e : PlanError} :
    expandFrom env axes taken templates = .error e ↔
      ∃ before t after, templates = before ++ t :: after ∧ Fit env axes taken before ∧
        t.Fault env axes (taken ++ before.flatMap (StepTemplate.namesOf axes)) e := by
  induction templates generalizing taken with
  | nil => simp [expandFrom]
  | cons t rest ih =>
      obtain ⟨ht, hrest⟩ := List.forall_mem_cons.1 hcount
      rw [expandFrom_cons_eq_error_iff ht, ih hrest]
      constructor
      · rintro (h | ⟨hfirst, before, u, after, rfl, hbefore, hfault⟩)
        · exact ⟨[], t, rest, rfl, .nil, by simpa using h⟩
        · refine ⟨t :: before, u, after, rfl, fit_cons_iff.2 ⟨hfirst, hbefore⟩, ?_⟩
          rw [List.flatMap_cons, ← List.append_assoc]
          exact hfault
      · rintro ⟨before, u, after, heq, hbefore, hfault⟩
        cases before with
        | nil =>
            cases heq
            exact .inl (by simpa using hfault)
        | cons s before =>
            cases heq
            obtain ⟨hfirst, hbefore⟩ := fit_cons_iff.1 hbefore
            rw [List.flatMap_cons, ← List.append_assoc] at hfault
            exact .inr ⟨hfirst, before, u, after, rfl, hbefore, hfault⟩

theorem fit_nil_iff :
    Fit env axes [] templates ↔ (∀ t ∈ templates, t.Expands env axes) ∧
      (templates.flatMap (StepTemplate.namesOf axes)).Nodup :=
  ⟨fun h => ⟨h.expands, h.distinct⟩, fun h => ⟨h.1, h.2, fun _ _ => List.not_mem_nil⟩⟩

end Lists

/-- **What is expanded and what is reported otherwise.**  Templates are expanded exactly when
nothing is wrong with any of them and all their steps have names of their own.  An error is reported
exactly when it is the first fault of a template, given the names of the templates in front of it,
and these can be expanded side by side; too many combinations for the room there is are one of the
faults, and with them everything breaks off. -/
theorem expand_exact {env : Environment} {axes : List Axis} {templates : List StepTemplate}
    (hcount : ∀ t ∈ templates, combinations (t.axesOf axes) < 2 ^ 64) :
    ((∃ steps, expand env axes templates = .ok steps) ↔
      (∀ t ∈ templates, t.Expands env axes) ∧
        (templates.flatMap (StepTemplate.namesOf axes)).Nodup) ∧
    ∀ e : PlanError, expand env axes templates = .error e ↔
      ∃ before t after, templates = before ++ t :: after ∧
        ((∀ s ∈ before, s.Expands env axes) ∧
          (before.flatMap (StepTemplate.namesOf axes)).Nodup) ∧
        t.Fault env axes (before.flatMap (StepTemplate.namesOf axes)) e := by
  refine ⟨?_, fun e => ?_⟩
  · rw [← fit_nil_iff]
    exact expandFrom_eq_ok_iff hcount
  · simp only [← fit_nil_iff]
    exact expandFrom_eq_error_iff hcount

namespace Sample

/-- Two systems. -/
def systems : List Axis :=
  [⟨"os", ["linux", "mac"], by decide⟩]

/-- A template for each system, and one for a system of them by its name. -/
def repeated : List StepTemplate :=
  [⟨"build {os}", none, [⟨"make {os}", none, none⟩]⟩, ⟨"build mac", none, [⟨"make", none, none⟩]⟩]

/-- The second template is to blame for a name that the first has given. -/
theorem expand_repeated :
    (∀ t ∈ repeated, combinations (t.axesOf systems) < 2 ^ 64) ∧
      expand ⟨.empty, ⟨[], none⟩⟩ systems repeated = .error (.config (.duplicateStep "build mac")) ∧
      ∃ before t after, repeated = before ++ t :: after ∧
        ((∀ s ∈ before, s.Expands ⟨.empty, ⟨[], none⟩⟩ systems) ∧
          (before.flatMap (StepTemplate.namesOf systems)).Nodup) ∧
        t.Fault ⟨.empty, ⟨[], none⟩⟩ systems (before.flatMap (StepTemplate.namesOf systems))
          (.config (.duplicateStep "build mac")) := by
  have hcount : ∀ t ∈ repeated, combinations (t.axesOf systems) < 2 ^ 64 := by decide +kernel
  have herror : expand ⟨.empty, ⟨[], none⟩⟩ systems repeated =
      .error (.config (.duplicateStep "build mac")) := eq_error_of_refusal? (by decide +kernel)
  exact ⟨hcount, herror, ((expand_exact hcount).2 _).1 herror⟩

/-- The digits of a wheel. -/
def sixteen : List String :=
  ["0", "1", "2", "3", "4", "5", "6", "7", "8", "9", "a", "b", "c", "d", "e", "f"]

theorem nodup_sixteen : sixteen.Nodup := by decide

/-- Fifteen wheels, each with sixteen digits. -/
def fifteenWheels : List Axis :=
  ["a", "b", "c", "d", "e", "f", "g", "h", "i", "j", "k", "l", "m", "n", "o"].map
    fun name => ⟨name, sixteen, nodup_sixteen⟩

/-- A template that refers to all of them, and to a variable. -/
def crowded : StepTemplate :=
  ⟨"{a}{b}{c}{d}{e}{f}{g}{h}{i}{j}{k}{l}{m}{n}{o}", none, [⟨"echo $UNDEFINED", none, none⟩]⟩

/-- A template that quotes a dollar sign, behind a comment with an apostrophe in it. -/
def annotated : StepTemplate :=
  ⟨"t", none, [⟨"# it's\necho '$UNDEFINED'", none, none⟩]⟩

/-- A variable is undefined under every combination of the one template, but everything breaks off
before the first of them is looked at.  The words of the other template have no variable in them,
and yet one is said to be undefined. -/
theorem expand_overflows_and_misreads :
    ((fifteenWheels.map Axis.name).Nodup ∧ crowded.Cuts ∧
      (∀ name ∈ crowded.referencedAxes, Known fifteenWheels name) ∧ Filled fifteenWheels ∧
      combinations (crowded.axesOf fifteenWheels) = 2 ^ 60 ∧
      ¬ Environment.Defines ⟨.empty, ⟨[], none⟩⟩ "$UNDEFINED" ∧
      expand ⟨.empty, ⟨[], none⟩⟩ fifteenWheels [crowded] = .error .overflow) ∧
    Words.split "# it's\necho '$UNDEFINED'" = some ["echo", "$UNDEFINED"] ∧
      expand ⟨.empty, ⟨[], none⟩⟩ [] [annotated] = .error (.config (.undefinedVariable "t"
        "$UNDEFINED" "error looking key 'UNDEFINED' up: environment variable not found")) := by
  have hcut : Words.split "echo $UNDEFINED" = some ["echo", "$UNDEFINED"] := by decide +kernel
  have hundefined : refusal? (Variables.substitute (Environment.lookup ⟨.empty, ⟨[], none⟩⟩)
      "$UNDEFINED") ≠ none := by decide +kernel
  refine ⟨⟨by decide, ⟨List.cons_ne_nil _ _, ?_⟩, ?_, ?_, by decide +kernel, ?_,
    eq_error_of_refusal? (by decide +kernel)⟩, by decide +kernel,
    eq_error_of_refusal? (by decide +kernel)⟩
  · intro c hc
    rw [List.mem_singleton.1 hc]
    exact ⟨_, _, hcut⟩
  · rw [known_iff_find?]
    decide +kernel
  · intro axis haxis
    obtain ⟨name, -, rfl⟩ := List.mem_map.1 haxis
    exact List.cons_ne_nil _ _
  · rintro ⟨expanded, h⟩
    exact hundefined (by rw [h]; rfl)

end Sample

end CheckMatrix
