/-
Where a planned step comes from.

Between a command of a template and the command that is run lie three stages: the line is cut into
words, a combination is filled in, and the paths are anchored at the root.  Each stage works on one
command after the other, so a list of commands stands beside the list it comes from, and
`Step.MadeFrom` says of a whole step what the stages do together.  It names the texts that the
stages hand on instead of the functions that do it.

Which combinations a template is expanded over is kept apart: `planGroups_made` takes any row of
bindings that accounts for every expanded template, and answers with the steps of all groups beside
the templates and bindings they come from.
-/
import CheckMatrix.Proofs.Plan.WellFormed

namespace CheckMatrix

/-! ### Commands -/

/-- Where a path that a template writes comes to lie: the empty path and the dot are the root, an
absolute path stays as it is, and any other is joined to the root. -/
inductive Path.Anchored (root p : Path) : Path → Prop
  | atRoot (h : p.isEmpty = true ∨ p.same ⟨[dot]⟩ = true) : Anchored root p root
  | absolute (h : p.isAbsolute = true) : Anchored root p p
  | joined (hsome : ¬ (p.isEmpty = true ∨ p.same ⟨[dot]⟩ = true)) (h : p.isAbsolute = false) :
      Anchored root p (root.join p)

theorem Path.anchor_anchored (root p : Path) : Path.Anchored root p (root.anchor p) := by
  unfold Path.anchor
  split
  · rename_i h
    exact .atRoot (by simpa using h)
  · rename_i h
    cases habsolute : p.isAbsolute with
    | true =>
        rw [Path.join, if_pos habsolute]
        exact .absolute habsolute
    | false => exact .joined (by simpa using h) habsolute

/-- A command made from one of a template: the words of its line, its directory (its own, that of
the template, or the dot) and its log file are filled in, the paths are anchored, and the directory
is there. -/
structure Command.MadeFrom (env : Environment) (tree : FileTree) (root : Path) (t : StepTemplate)
    (b : Binding) (c : CommandTemplate) (made : Command) : Prop where
  words : ∃ words, Words.split (Marks.mark c.run) = some words ∧
    List.Forall₂ (fun word filled => expandWord env t b word = .ok filled) words made.words
  dir : ∃ text, expandWord env t b ((c.dir.or t.dir).getD ".") = .ok text ∧
    Path.Anchored root (.ofText text) made.dir
  there : tree.isDirectory made.dir = true
  log : Option.Rel (fun written log => ∃ text, expandWord env t b written = .ok text ∧
    Path.Anchored root (.ofText text) log) c.log made.log

theorem SplitCommand.ofTemplate_eq_ok {t : StepTemplate} {c : CommandTemplate} {split : SplitCommand}
    (h : SplitCommand.ofTemplate t c = .ok split) :
    Words.split (Marks.mark c.run) = some split.words ∧ split.words ≠ [] ∧
      split.dir = (c.dir.or t.dir).getD "." ∧ split.log = c.log := by
  unfold SplitCommand.ofTemplate at h
  split at h
  · rename_i program args hsplit
    cases h
    exact ⟨hsplit, List.cons_ne_nil _ _, rfl, rfl⟩
  · cases h

/-- A command in a working directory that exists, with its paths anchored. -/
theorem Command.anchor_eq_ok {tree : FileTree} {root : Path} {step : String} {c placed : Command}
    (h : c.anchor tree root step = .ok placed) :
    placed.words = c.words ∧ placed.dir = root.anchor c.dir ∧
      placed.log = c.log.map root.anchor ∧ tree.isDirectory placed.dir = true := by
  unfold Command.anchor at h
  simp only at h
  split at h
  · rename_i hdir
    cases h
    exact ⟨rfl, rfl, rfl, hdir⟩
  · cases h

/-- A command that is filled in, text by text. -/
theorem SplitCommand.instantiate_eq_ok {env : Environment} {t : StepTemplate} {b : Binding}
    {split : SplitCommand} {made : Command} (hsome : split.words ≠ [])
    (h : split.instantiate env t b = .ok made) :
    List.Forall₂ (fun word filled => expandWord env t b word = .ok filled) split.words made.words ∧
      (∃ text, expandWord env t b split.dir = .ok text ∧ made.dir = .ofText text) ∧
      Option.Rel (fun written log => ∃ text, expandWord env t b written = .ok text ∧
        log = Path.ofText text) split.log made.log := by
  obtain ⟨filled, hfilled, h⟩ := bind_eq_ok_iff.1 h
  obtain ⟨dir, hdir, h⟩ := bind_eq_ok_iff.1 h
  obtain ⟨log, hlog, h⟩ := bind_eq_ok_iff.1 h
  cases h
  refine ⟨?_, ⟨dir, hdir, rfl⟩, ?_⟩
  · have hall := mapM_eq_ok_iff.1 hfilled
    cases filled with
    | nil => exact absurd (List.forall₂_nil_right_iff.1 hall) hsome
    | cons program args => exact hall
  · have hwritten := optionMapM_eq_ok_iff.1 hlog
    generalize split.log = written at hwritten ⊢
    cases hwritten with
    | none => exact .none
    | some htext => exact .some ⟨_, htext, rfl⟩

/-- The three stages of one command. -/
theorem Command.madeFrom {env : Environment} {tree : FileTree} {root : Path} {t : StepTemplate}
    {b : Binding} {name : String} {c : CommandTemplate} {split : SplitCommand} {made placed : Command}
    (hsplit : SplitCommand.ofTemplate t c = .ok split) (hmade : split.instantiate env t b = .ok made)
    (hplaced : made.anchor tree root name = .ok placed) :
    Command.MadeFrom env tree root t b c placed := by
  obtain ⟨hwords, hsome, hdir, hlog⟩ := SplitCommand.ofTemplate_eq_ok hsplit
  obtain ⟨hfilled, ⟨dir, hfilledDir, hmadeDir⟩, hfilledLog⟩ :=
    SplitCommand.instantiate_eq_ok hsome hmade
  obtain ⟨hplacedWords, hplacedDir, hplacedLog, hthere⟩ := Command.anchor_eq_ok hplaced
  refine ⟨⟨split.words, hwords, ?_⟩, ⟨dir, hdir ▸ hfilledDir, ?_⟩, hthere, ?_⟩
  · rw [hplacedWords]
    exact hfilled
  · rw [hplacedDir, hmadeDir]
    exact Path.anchor_anchored root _
  · rw [hlog] at hfilledLog
    rw [hplacedLog]
    generalize c.log = written at hfilledLog ⊢
    generalize made.log = log at hfilledLog ⊢
    cases hfilledLog with
    | none => exact .none
    | some htext =>
        obtain ⟨text, htext, rfl⟩ := htext
        exact .some ⟨text, htext, Path.anchor_anchored root _⟩

/-! ### Steps -/

/-- A step made from a template of a group under a binding. -/
structure Step.MadeFrom (env : Environment) (tree : FileTree) (root : Path) (g : Group)
    (t : StepTemplate) (b : Binding) (step : Step) : Prop where
  name : step.name = interpolate t.label b
  group : step.group = g.name
  commands : List.Forall₂ (Command.MadeFrom env tree root t b) t.commands step.commands

/-- A step as expansion leaves it, with its paths as they are written. -/
def StepTemplate.Instantiated (env : Environment) (t : StepTemplate) (b : Binding) (step : Step) :
    Prop :=
  ∃ commands, t.splitCommands = .ok commands ∧ t.instantiate env commands b = .ok step

/-- A step that has been given to a group, its paths anchored. -/
structure Step.PlacedFrom (tree : FileTree) (root : Path) (group : String) (s placed : Step) :
    Prop where
  name : placed.name = s.name
  group : placed.group = group
  commands : List.Forall₂ (fun c c' => c.anchor tree root s.name = .ok c') s.commands
    placed.commands

/-- The name of a step is filled in, and its commands stand beside those of the template. -/
theorem StepTemplate.Instantiated.made {env : Environment} {t : StepTemplate} {b : Binding}
    {step : Step} (h : t.Instantiated env b step) : step.name = interpolate t.label b ∧
      List.Forall₂ (fun c made => ∃ split, SplitCommand.ofTemplate t c = .ok split ∧
        split.instantiate env t b = .ok made) t.commands step.commands := by
  obtain ⟨commands, hsplit, hmade⟩ := h
  obtain ⟨split, hcut, hsplit⟩ := bind_eq_ok_iff.1 hsplit
  obtain ⟨made, hfilled, hmade⟩ := bind_eq_ok_iff.1 hmade
  have hcommands : commands = split := by
    split at hsplit
    · cases hsplit
    · cases hsplit
      rfl
  subst hcommands
  cases hmade
  exact ⟨rfl, forall₂_trans (fun _ split _ hcut hmade => ⟨split, hcut, hmade⟩)
    (mapM_eq_ok_iff.1 hcut) (mapM_eq_ok_iff.1 hfilled)⟩

/-- The stages of one step. -/
theorem Step.madeFrom {env : Environment} {tree : FileTree} {root : Path} {g : Group}
    {t : StepTemplate} {b : Binding} {s placed : Step} (hmade : t.Instantiated env b s)
    (hplaced : s.PlacedFrom tree root g.name placed) : Step.MadeFrom env tree root g t b placed := by
  obtain ⟨hname, hcommands⟩ := hmade.made
  refine ⟨hplaced.name.trans hname, hplaced.group, ?_⟩
  refine forall₂_trans ?_ hcommands hplaced.commands
  rintro c made placed ⟨split, hcut, hmade⟩ hanchored
  exact Command.madeFrom hcut hmade hanchored

theorem placeSteps_placedFrom {tree : FileTree} {root : Path} {group : String} {steps : List Step} :
    ∀ {taken : List String} {placed : List Step},
      placeSteps tree root group taken steps = .ok placed →
        List.Forall₂ (Step.PlacedFrom tree root group) steps placed := by
  induction steps with
  | nil =>
      intro taken placed h
      cases h
      exact .nil
  | cons s rest ih =>
      intro taken placed h
      unfold placeSteps at h
      split at h
      · cases h
      · obtain ⟨commands, hcommands, h⟩ := bind_eq_ok_iff.1 h
        obtain ⟨others, hothers, h⟩ := bind_eq_ok_iff.1 h
        cases h
        exact .cons ⟨rfl, rfl, mapM_eq_ok_iff.1 hcommands⟩ (ih hothers)

/-! ### Templates and groups -/

section Bindings

variable {env : Environment} {axes : List Axis} {bindings : StepTemplate → List Binding}

/-- The bindings account for what a template expands to. -/
def Accounts (env : Environment) (axes : List Axis) (bindings : StepTemplate → List Binding)
    (t : StepTemplate) : Prop :=
  ∀ steps, expandTemplate env axes t = .ok steps →
    List.Forall₂ (t.Instantiated env) (bindings t) steps

/-- A template is expanded over what a cursor meets that moves over the axes it uses. -/
theorem expandTemplate_made {t : StepTemplate} {steps : List Step}
    (h : expandTemplate env axes t = .ok steps) : ∃ used, t.usedAxes axes = .ok used ∧
      List.Forall₂ (t.Instantiated env)
        ((Cursor.walk used (countedCombinations used) (.first used)).map fun cursor =>
          cursor.binding used) steps := by
  obtain ⟨commands, used, hcommands, hused, -, h⟩ := expandTemplate_stages.1 h
  refine ⟨used, hused, List.forall₂_map_left_iff.2 ?_⟩
  exact (mapM_eq_ok_iff.1 h).imp fun cursor step hstep => ⟨commands, hcommands, hstep⟩

/-- The steps of some templates are those of each template, one block behind the other. -/
theorem expandFrom_blocks {templates : List StepTemplate} :
    ∀ {taken : List String} {steps : List Step}, expandFrom env axes taken templates = .ok steps →
      ∃ blocks, steps = blocks.flatten ∧
        List.Forall₂ (fun t block => expandTemplate env axes t = .ok block) templates blocks := by
  induction templates with
  | nil =>
      intro taken steps h
      cases h
      exact ⟨[], rfl, .nil⟩
  | cons t rest ih =>
      intro taken steps h
      obtain ⟨first, taken', others, hfirst, -, hothers, rfl⟩ := expandFrom_stages.1 h
      obtain ⟨blocks, rfl, hblocks⟩ := ih hothers
      exact ⟨first :: blocks, rfl, .cons hfirst hblocks⟩

theorem expandFrom_made {templates : List StepTemplate}
    (hbindings : ∀ t ∈ templates, Accounts env axes bindings t) {taken : List String}
    {steps : List Step} (h : expandFrom env axes taken templates = .ok steps) :
    List.Forall₂ (fun e step => e.1.Instantiated env e.2 step)
      (templates.flatMap fun t => (bindings t).map fun b => (t, b)) steps := by
  obtain ⟨blocks, rfl, hblocks⟩ := expandFrom_blocks h
  have hmade := (List.forall₂_and_left _ _).2 ⟨hbindings, hblocks⟩
  rw [List.flatMap_def]
  refine List.rel_flatten (List.forall₂_map_left_iff.2 (hmade.imp ?_))
  rintro t block ⟨haccounts, hblock⟩
  exact List.forall₂_map_left_iff.2 (haccounts block hblock)

/-- Groups with their templates and the bindings of these, in order. -/
def origins (bindings : StepTemplate → List Binding) (groups : List Group) :
    List (Group × StepTemplate × Binding) :=
  groups.flatMap fun g => g.steps.flatMap fun t => (bindings t).map fun b => (g, t, b)

/-- **The steps of some groups stand beside the templates and bindings they are made from.** -/
theorem planGroups_made {tree : FileTree} {root : Path} {groups : List Group}
    (hbindings : ∀ g ∈ groups, ∀ t ∈ g.steps, Accounts env axes bindings t) :
    ∀ {taken : List String} {steps : List Step},
      planGroups tree root env axes taken groups = .ok steps →
        List.Forall₂ (fun e step => Step.MadeFrom env tree root e.1 e.2.1 e.2.2 step)
          (origins bindings groups) steps := by
  induction groups with
  | nil =>
      intro taken steps h
      cases h
      exact .nil
  | cons g rest ih =>
      intro taken steps h
      obtain ⟨expanded, placed, others, hexpanded, hplaced, hothers, rfl⟩ := planGroups_stages.1 h
      have hmade := expandFrom_made (hbindings g List.mem_cons_self) hexpanded
      have hstages : ∀ (e : StepTemplate × Binding) (s placed : Step),
          e.1.Instantiated env e.2 s → s.PlacedFrom tree root g.name placed →
            Step.MadeFrom env tree root g e.1 e.2 placed :=
        fun e s placed => Step.madeFrom
      have hgroup : List.Forall₂ (fun e step => Step.MadeFrom env tree root e.1 e.2.1 e.2.2 step)
          ((g.steps.flatMap fun t => (bindings t).map fun b => (t, b)).map fun e => (g, e)) placed :=
        List.forall₂_map_left_iff.2 (forall₂_trans hstages hmade (placeSteps_placedFrom hplaced))
      have hrest := ih (fun g' hg' => hbindings g' (List.mem_cons_of_mem g hg')) hothers
      have hlist : (g.steps.flatMap fun t => (bindings t).map fun b => (g, t, b)) =
          (g.steps.flatMap fun t => (bindings t).map fun b => (t, b)).map fun e => (g, e) := by
        rw [List.map_flatMap]
        refine List.flatMap_congr fun t _ => ?_
        rw [List.map_map]
        rfl
      rw [origins, List.flatMap_cons, hlist]
      exact List.rel_append hgroup hrest

end Bindings

end CheckMatrix
