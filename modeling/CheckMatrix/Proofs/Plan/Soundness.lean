/-
Nothing is wrong with a plan.

`Plan.WF` is what a run relies on to get to its end.  `Plan.Sound` adds what it relies on to do
the right thing: the steps come group after group in the order in which the plan names the groups,
every command was written in a template of one of them, its working directory is there, its paths
are anchored at the root, and the log targets of the plan are those of its commands.  Nothing
behind planning looks at any of this again.

Where a step comes from is known without counting: a cursor may move as often as it likes, and its
places are bindings all the same (`StepTemplate.walked`).  So a plan is sound also when there are
more combinations than a word can count.
-/
import CheckMatrix.Proofs.FileTree.Spelling
import CheckMatrix.Proofs.Plan.Enumeration

namespace CheckMatrix

/-! ### Steps and their groups -/

/-- The bindings that a template is expanded over. -/
def StepTemplate.walked (axes : List Axis) (t : StepTemplate) : List Binding :=
  let used := axes.filter fun axis => t.referencedAxes.contains axis.name
  (Cursor.walk used (countedCombinations used) (.first used)).map fun cursor => cursor.binding used

theorem StepTemplate.walked_account (env : Environment) (axes : List Axis) (t : StepTemplate) :
    Accounts env axes (StepTemplate.walked axes) t := by
  intro steps h
  obtain ⟨used, hused, hmade⟩ := expandTemplate_made h
  rw [(t.usedAxes_eq_ok hused).1] at hmade
  exact hmade

theorem mem_origins {bindings : StepTemplate → List Binding} {groups : List Group}
    {e : Group × StepTemplate × Binding} (h : e ∈ origins bindings groups) :
    e.1 ∈ groups ∧ e.2.1 ∈ e.1.steps := by
  obtain ⟨g, hg, h⟩ := List.mem_flatMap.1 h
  obtain ⟨t, ht, h⟩ := List.mem_flatMap.1 h
  obtain ⟨b, -, rfl⟩ := List.mem_map.1 h
  exact ⟨hg, ht⟩

/-- Each group is the origin of a row of steps. -/
theorem origins_names (bindings : StepTemplate → List Binding) (groups : List Group) :
    (origins bindings groups).map (fun e => e.1.name) =
      groups.flatMap fun g => List.replicate (g.steps.flatMap bindings).length g.name := by
  rw [origins, List.map_flatMap]
  refine List.flatMap_congr fun g _ => ?_
  rw [List.eq_replicate_iff]
  constructor
  · simp only [List.length_map, List.length_flatMap]
  · intro name hname
    obtain ⟨e, he, rfl⟩ := List.mem_map.1 hname
    obtain ⟨t, -, he⟩ := List.mem_flatMap.1 he
    obtain ⟨b, -, rfl⟩ := List.mem_map.1 he
    rfl

/-! ### Log targets -/

/-- The log targets of a plan are those of its commands, each once. -/
theorem Plan.logTargets_keeps (p : Plan) :
    Keeps Path.same (p.steps.flatMap Step.logs) p.logTargets :=
  keepFirst_keeps Path.same_refl _

/-! ### Plans -/

/-- A plan for some groups of a configuration in which everything is as it should be. -/
structure Plan.Sound (process : ProcessEnv) (tree : FileTree) (config : Config) (root : Path)
    (groups : List Group) (p : Plan) : Prop extends p.WF where
  /-- The plan names the groups in order, -/
  names : p.groups = groups.map Group.name
  /-- and its steps come in that order: first those of the first group, then those of the next. -/
  ordered : ∃ number : Group → Nat, p.steps.map Step.group =
    groups.flatMap fun g => List.replicate (number g) g.name
  /-- Every step is made from a template of a group, its paths anchored at the root. -/
  made : ∀ step ∈ p.steps, ∃ g ∈ groups, ∃ t ∈ g.steps, ∃ b,
    Step.MadeFrom ⟨config.env, process⟩ tree root g t b step
  /-- Every command has a directory to work in. -/
  directories : ∀ step ∈ p.steps, ∀ c ∈ step.commands, tree.isDirectory c.dir = true
  /-- The log targets are those of the commands, and no two are the same path. -/
  logs : Keeps Path.same (p.steps.flatMap Step.logs) p.logTargets

/-- **Planning yields sound plans.** -/
theorem plan_sound {process : ProcessEnv} {tree : FileTree} {config : Config}
    {selection : Selection} {root : Path} {p : Plan}
    (h : plan process tree config selection root = .ok p) :
    ∃ groups, selection.resolve config = .ok groups ∧
      p.Sound process tree config root groups := by
  obtain ⟨groups, axes, hgroups, -, hsteps, -, hnames⟩ := plan_eq_ok_iff.1 h
  have hbeside : List.Forall₂
      (fun e step => Step.MadeFrom ⟨config.env, process⟩ tree root e.1 e.2.1 e.2.2 step)
      (origins (StepTemplate.walked axes) groups) p.steps :=
    planGroups_made (fun _ _ t _ => t.walked_account _ axes) hsteps
  have hmade : ∀ step ∈ p.steps, ∃ g ∈ groups, ∃ t ∈ g.steps, ∃ b,
      Step.MadeFrom ⟨config.env, process⟩ tree root g t b step := by
    intro step hstep
    obtain ⟨e, he, hfrom⟩ := exists_of_mem_forall₂ hbeside hstep
    obtain ⟨hg, ht⟩ := mem_origins he
    exact ⟨e.1, hg, e.2.1, ht, e.2.2, hfrom⟩
  refine ⟨groups, hgroups, {
    toWF := plan_wf h
    names := hnames
    ordered := ?_
    made := hmade
    directories := ?_
    logs := p.logTargets_keeps }⟩
  · refine ⟨_, Eq.trans ?_ (origins_names (StepTemplate.walked axes) groups)⟩
    exact map_eq_of_forall₂ (fun e step hfrom => hfrom.group) hbeside
  · intro step hstep c hc
    obtain ⟨g, -, t, -, b, hfrom⟩ := hmade step hstep
    obtain ⟨written, -, hcommand⟩ := exists_of_mem_forall₂ hfrom.commands hc
    exact hcommand.there

/-- The plan for the matrix is sound: its commands work in directories of the project. -/
theorem Sample.plan_sound_matrix :
    CheckMatrix.plan ⟨[], none⟩ project matrix .default (.ofText "/") = .ok matrixPlan ∧
      ∃ groups, Selection.default.resolve matrix = .ok groups ∧
        matrixPlan.Sound ⟨[], none⟩ project matrix (.ofText "/") groups :=
  ⟨plan_matrix, plan_sound plan_matrix⟩

end CheckMatrix
