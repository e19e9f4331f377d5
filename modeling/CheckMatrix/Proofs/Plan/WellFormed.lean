/-
What every plan brings along.

A run relies on three things without looking again: there is a step to run, no two steps share a
name, and every step has a command.  Each is checked at one place of planning and has to survive
the rest of it.  A template without commands is refused before it is expanded, and instantiating
and anchoring keep the number of commands; a name is refused when a step is placed under it twice,
across all groups; and a plan without steps is refused at the end.
-/
import CheckMatrix.Plan
import CheckMatrix.Proofs.Fallible

namespace CheckMatrix

/-- A plan that can be run: it has steps, their names differ, and each has commands. -/
structure Plan.WF (p : Plan) : Prop where
  nonempty : p.steps ≠ []
  distinct : (p.steps.map Step.name).Nodup
  busy : ∀ step ∈ p.steps, step.commands ≠ []

/-! ### Stages

A result is taken apart stage by stage. -/

theorem askRoom_eq_ok_iff {count : Nat} {u : Unit} : askRoom count = .ok u ↔ count ≤ mostSteps := by
  unfold askRoom
  split <;> simp [*]

theorem askRoom_eq_error_iff {count : Nat} {e : PlanError} :
    askRoom count = .error e ↔ mostSteps < count ∧ e = .overflow := by
  unfold askRoom
  split
  · rename_i hroom
    simp [Nat.not_lt.2 hroom]
  · rename_i hroom
    simp [Nat.lt_of_not_le hroom, eq_comm (a := e)]

/-- The stages of a template: its lines are cut and its axes settled, there is room for the steps,
and they are made. -/
theorem expandTemplate_stages {env : Environment} {axes : List Axis} {t : StepTemplate}
    {steps : List Step} :
    expandTemplate env axes t = .ok steps ↔
      ∃ commands used, t.splitCommands = .ok commands ∧ t.usedAxes axes = .ok used ∧
        countedCombinations used ≤ mostSteps ∧
        (Cursor.walk used (countedCombinations used) (.first used)).mapM (fun cursor =>
          t.instantiate env commands (cursor.binding used)) = .ok steps := by
  simp only [expandTemplate, bind_eq_ok_iff, checked_eq_ok_iff, askRoom_eq_ok_iff, exists_and_left,
    exists_const]

/-- A template that is refused is refused at one of its stages. -/
theorem expandTemplate_refused {env : Environment} {axes : List Axis} {t : StepTemplate}
    {e : PlanError} :
    expandTemplate env axes t = .error e ↔
      checked t.splitCommands = .error e ∨
        ∃ commands, t.splitCommands = .ok commands ∧ (checked (t.usedAxes axes) = .error e ∨
          ∃ used, t.usedAxes axes = .ok used ∧
            (mostSteps < countedCombinations used ∧ e = .overflow ∨
              countedCombinations used ≤ mostSteps ∧
                checked ((Cursor.walk used (countedCombinations used) (.first used)).mapM
                  fun cursor => t.instantiate env commands (cursor.binding used)) = .error e)) := by
  simp only [expandTemplate, bind_eq_error_iff, checked_eq_ok_iff, askRoom_eq_ok_iff,
    askRoom_eq_error_iff, exists_const]

/-- The stages of the first of some templates: its steps are made, and their names are free. -/
theorem expandFrom_stages {env : Environment} {axes : List Axis} {t : StepTemplate}
    {rest : List StepTemplate} {taken : List String} {steps : List Step} :
    expandFrom env axes taken (t :: rest) = .ok steps ↔
      ∃ first names others, expandTemplate env axes t = .ok first ∧
        takeNames taken first = .ok names ∧ expandFrom env axes names rest = .ok others ∧
        first ++ others = steps := by
  simp only [expandFrom, bind_eq_ok_iff, checked_eq_ok_iff, pure_eq_ok_iff, exists_and_left]

/-- The stages of the first of some groups: its steps are made and placed. -/
theorem planGroups_stages {tree : FileTree} {root : Path} {env : Environment} {axes : List Axis}
    {g : Group} {rest : List Group} {taken : List String} {steps : List Step} :
    planGroups tree root env axes taken (g :: rest) = .ok steps ↔
      ∃ expanded placed others, expand env axes g.steps = .ok expanded ∧
        placeSteps tree root g.name taken expanded = .ok placed ∧
        planGroups tree root env axes (placed.map Step.name ++ taken) rest = .ok others ∧
        placed ++ others = steps := by
  simp only [planGroups, bind_eq_ok_iff, checked_eq_ok_iff, pure_eq_ok_iff, exists_and_left]

/-- The stages of planning: the groups are selected, the axes settled and the steps made, and there
has to be one. -/
theorem plan_eq_ok_iff {process : ProcessEnv} {tree : FileTree} {config : Config}
    {selection : Selection} {root : Path} {p : Plan} :
    plan process tree config selection root = .ok p ↔
      ∃ groups axes, selection.resolve config = .ok groups ∧
        resolveAxes tree root (referencedAxes groups) [] config.axes = .ok axes ∧
        planGroups tree root ⟨config.env, process⟩ axes [] groups = .ok p.steps ∧
        p.steps ≠ [] ∧ p.groups = groups.map Group.name := by
  constructor
  · intro h
    obtain ⟨groups, hgroups, h⟩ := bind_eq_ok_iff.1 h
    obtain ⟨axes, haxes, h⟩ := bind_eq_ok_iff.1 h
    obtain ⟨steps, hsteps, h⟩ := bind_eq_ok_iff.1 h
    rw [checked_eq_ok_iff] at hgroups haxes
    split at h
    · cases h
    · rename_i hne
      cases h
      exact ⟨groups, axes, hgroups, haxes, hsteps, fun hnil => hne (List.isEmpty_iff.2 hnil), rfl⟩
  · rintro ⟨groups, axes, hgroups, haxes, hsteps, hne, hnames⟩
    rw [← checked_eq_ok_iff] at hgroups haxes
    refine bind_eq_ok_iff.2 ⟨groups, hgroups, bind_eq_ok_iff.2 ⟨axes, haxes, ?_⟩⟩
    refine bind_eq_ok_iff.2 ⟨p.steps, hsteps, ?_⟩
    rw [if_neg fun hempty => hne (List.isEmpty_iff.1 hempty), ← hnames]
    rfl

/-- A selection that is refused ends planning, -/
theorem plan_of_refused {process : ProcessEnv} {tree : FileTree} {config : Config}
    {selection : Selection} {root : Path} {e : ConfigError} (h : selection.resolve config = .error e) :
    plan process tree config selection root = .error (.config e) := by
  unfold plan
  rw [h]
  rfl

/-- and one that is not leaves the other stages to come. -/
theorem plan_of_selected {process : ProcessEnv} {tree : FileTree} {config : Config}
    {selection : Selection} {root : Path} {groups : List Group}
    (h : selection.resolve config = .ok groups) :
    plan process tree config selection root = (do
      let axes ← checked (resolveAxes tree root (referencedAxes groups) [] config.axes)
      let steps ← planGroups tree root ⟨config.env, process⟩ axes [] groups
      if steps.isEmpty then .error (.config .emptyRun)
      else return ⟨groups.map Group.name, steps⟩) := by
  unfold plan
  rw [h]
  rfl

/-! ### Every step has a command -/

theorem StepTemplate.splitCommands_ne_nil {t : StepTemplate} {commands : List SplitCommand}
    (h : t.splitCommands = .ok commands) : commands ≠ [] := by
  obtain ⟨split, -, h⟩ := bind_eq_ok_iff.1 h
  split at h
  · cases h
  · rename_i hne
    cases h
    exact fun hnil => hne (List.isEmpty_iff.2 hnil)

/-- A step has as many commands as the template it is made of. -/
theorem StepTemplate.instantiate_length {env : Environment} {t : StepTemplate}
    {commands : List SplitCommand} {binding : Binding} {step : Step}
    (h : t.instantiate env commands binding = .ok step) :
    step.commands.length = commands.length := by
  obtain ⟨filled, hfilled, h⟩ := bind_eq_ok_iff.1 h
  cases h
  exact (mapM_eq_ok_iff.1 hfilled).length_eq.symm

theorem expandTemplate_busy {env : Environment} {axes : List Axis} {t : StepTemplate}
    {steps : List Step} (h : expandTemplate env axes t = .ok steps) :
    ∀ step ∈ steps, step.commands ≠ [] := by
  obtain ⟨commands, used, hcommands, -, -, h⟩ := expandTemplate_stages.1 h
  intro step hstep
  obtain ⟨k, -, hk⟩ := exists_of_mem_mapM h hstep
  have hlength := StepTemplate.instantiate_length hk
  have hpos := List.length_pos_iff.2 (StepTemplate.splitCommands_ne_nil hcommands)
  exact List.length_pos_iff.1 (hlength ▸ hpos)

theorem expandFrom_busy {env : Environment} {axes : List Axis} {templates : List StepTemplate} :
    ∀ {taken : List String} {steps : List Step}, expandFrom env axes taken templates = .ok steps →
      ∀ step ∈ steps, step.commands ≠ [] := by
  induction templates with
  | nil =>
      intro taken steps h
      cases h
      simp
  | cons t rest ih =>
      intro taken steps h
      obtain ⟨first, taken', others, hfirst, -, hothers, rfl⟩ := expandFrom_stages.1 h
      intro step hstep
      rcases List.mem_append.1 hstep with hmem | hmem
      · exact expandTemplate_busy hfirst step hmem
      · exact ih hothers step hmem

/-! ### Placing steps in a group -/

/-- What placing a list of steps does: the names stay, none was taken and none comes twice, and the
number of commands stays. -/
structure Placed (taken : List String) (steps placed : List Step) : Prop where
  names : placed.map Step.name = steps.map Step.name
  fresh : ∀ name ∈ placed.map Step.name, name ∉ taken
  distinct : (placed.map Step.name).Nodup
  commands : placed.map (·.commands.length) = steps.map (·.commands.length)

theorem placeSteps_placed {tree : FileTree} {root : Path} {group : String} {steps : List Step} :
    ∀ {taken : List String} {placed : List Step},
      placeSteps tree root group taken steps = .ok placed → Placed taken steps placed := by
  induction steps with
  | nil =>
      intro taken placed h
      cases h
      exact ⟨rfl, by simp, .nil, rfl⟩
  | cons s rest ih =>
      intro taken placed h
      unfold placeSteps at h
      split at h
      · cases h
      · rename_i hfresh
        obtain ⟨commands, hcommands, h⟩ := bind_eq_ok_iff.1 h
        obtain ⟨others, hothers, h⟩ := bind_eq_ok_iff.1 h
        cases h
        have hrest := ih hothers
        have hlength := (mapM_eq_ok_iff.1 hcommands).length_eq.symm
        refine ⟨?_, ?_, ?_, ?_⟩
        · simp only [List.map_cons, hrest.names]
        · intro name hname
          rcases List.mem_cons.1 hname with rfl | hname
          · exact hfresh
          · exact fun htaken => hrest.fresh name hname (List.mem_cons_of_mem _ htaken)
        · -- a later step of the same name would have found it taken
          refine List.nodup_cons.2 ⟨fun hmem => ?_, hrest.distinct⟩
          exact hrest.fresh _ hmem List.mem_cons_self
        · simp only [List.map_cons, hlength, hrest.commands]

theorem Placed.busy {taken : List String} {steps placed : List Step} (h : Placed taken steps placed)
    (hbusy : ∀ step ∈ steps, step.commands ≠ []) : ∀ step ∈ placed, step.commands ≠ [] := by
  intro step hstep hnil
  have hzero : (0 : Nat) ∈ placed.map (·.commands.length) :=
    List.mem_map.2 ⟨step, hstep, by rw [hnil]; rfl⟩
  rw [h.commands] at hzero
  obtain ⟨source, hsource, hlength⟩ := List.mem_map.1 hzero
  exact hbusy source hsource (List.length_eq_zero_iff.1 hlength)

/-! ### All groups -/

theorem planGroups_distinct {tree : FileTree} {root : Path} {env : Environment} {axes : List Axis}
    {groups : List Group} :
    ∀ {taken : List String} {steps : List Step},
      planGroups tree root env axes taken groups = .ok steps →
        (steps.map Step.name).Nodup ∧ ∀ name ∈ steps.map Step.name, name ∉ taken := by
  induction groups with
  | nil =>
      intro taken steps h
      cases h
      exact ⟨.nil, by simp⟩
  | cons g rest ih =>
      intro taken steps h
      obtain ⟨expanded, placed, others, -, hplaced, hothers, rfl⟩ := planGroups_stages.1 h
      have hgroup := placeSteps_placed hplaced
      obtain ⟨hdistinct, hfresh⟩ := ih hothers
      rw [List.map_append]
      refine ⟨List.nodup_append.2 ⟨hgroup.distinct, hdistinct, ?_⟩, ?_⟩
      · rintro name hname other hother rfl
        exact hfresh name hother (List.mem_append_left _ hname)
      · intro name hname
        rcases List.mem_append.1 hname with hname | hname
        · exact hgroup.fresh name hname
        · exact fun htaken => hfresh name hname (List.mem_append_right _ htaken)

theorem planGroups_busy {tree : FileTree} {root : Path} {env : Environment} {axes : List Axis}
    {groups : List Group} :
    ∀ {taken : List String} {steps : List Step},
      planGroups tree root env axes taken groups = .ok steps →
        ∀ step ∈ steps, step.commands ≠ [] := by
  induction groups with
  | nil =>
      intro taken steps h
      cases h
      simp
  | cons g rest ih =>
      intro taken steps h
      obtain ⟨expanded, placed, others, hexpanded, hplaced, hothers, rfl⟩ := planGroups_stages.1 h
      intro step hstep
      rcases List.mem_append.1 hstep with hmem | hmem
      · exact (placeSteps_placed hplaced).busy (expandFrom_busy hexpanded) step hmem
      · exact ih hothers step hmem

/-- **Planning yields plans that can be run.** -/
theorem plan_wf {process : ProcessEnv} {tree : FileTree} {config : Config} {selection : Selection}
    {root : Path} {p : Plan} (h : plan process tree config selection root = .ok p) : p.WF := by
  obtain ⟨groups, axes, -, -, hsteps, hne, -⟩ := plan_eq_ok_iff.1 h
  exact ⟨hne, (planGroups_distinct hsteps).1, planGroups_busy hsteps⟩

end CheckMatrix
