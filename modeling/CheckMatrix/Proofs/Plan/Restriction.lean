/-
A smaller selection has a smaller plan.

Selecting fewer groups leaves out the steps of the others and nothing else.  That is not how the
planner works: the smaller selection settles fewer axes, so each template is expanded over a shorter
list of them, and fewer names are taken when a step gets its own.  Neither shows.  A template looks
only at the axes it refers to, and these are settled for either selection, with the same values
(`resolveAxes_restrict`, `expandFrom_congr`); and a name that was free among more names is free
among fewer (`placeSteps_fewer`).

A selection wants names, so two groups of one name come together or not at all.  This is why the
steps that remain can be told by the name of their group.
-/
import CheckMatrix.Proofs.Plan.Acceptance
import Mathlib.Data.List.Find

namespace CheckMatrix

/-! ### Selected groups -/

/-- The groups of a smaller selection are those of the larger one that have one of its names. -/
theorem Selection.resolve_restrict {selection smaller : Selection} {config : Config}
    {groups kept : List Group} (hgroups : selection.resolve config = .ok groups)
    (hkept : smaller.resolve config = .ok kept) (hsub : kept ⊆ groups) :
    kept = groups.filter fun g => g.name ∈ kept.map Group.name := by
  obtain ⟨wants, hwants⟩ := Selection.resolve_eq_filter hgroups
  obtain ⟨wants', hwants'⟩ := Selection.resolve_eq_filter hkept
  rw [hwants, List.filter_filter]
  conv_lhs => rw [hwants']
  refine List.filter_congr fun g hg => ?_
  have hwanted : wants' g.name = true ↔ g.name ∈ kept.map Group.name := by
    constructor
    · intro hname
      rw [hwants']
      exact List.mem_map_of_mem (List.mem_filter.2 ⟨hg, hname⟩)
    · intro hname
      obtain ⟨other, hother, heq⟩ := List.mem_map.1 hname
      rw [hwants'] at hother
      exact heq ▸ (List.mem_filter.1 hother).2
  by_cases hname : wants' g.name = true
  · have hin : g ∈ kept := by
      rw [hwants']
      exact List.mem_filter.2 ⟨hg, hname⟩
    have hlarge := hsub hin
    rw [hwants] at hlarge
    simp [hname, hwanted.1 hname, (List.mem_filter.1 hlarge).2]
  · have hnot : g.name ∉ kept.map Group.name := fun hmem => hname (hwanted.2 hmem)
    simp [hname, hnot]

/-! ### The axes that fewer templates refer to -/

theorem AxisSource.resolve_name {tree : FileTree} {root : Path} {source : AxisSource} {axis : Axis}
    (h : source.resolve tree root = .ok axis) : axis.name = source.name :=
  congrArg Prod.fst (AxisSource.resolve_eq_ok h)

/-- If the axes that many refer to can be settled, so can those that few refer to, and they are the
same. -/
theorem resolveAxes_restrict {tree : FileTree} {root : Path} {referenced kept : List String}
    (hsub : kept ⊆ referenced) {sources : List AxisSource} :
    ∀ {seen : List String} {axes : List Axis},
      resolveAxes tree root referenced seen sources = .ok axes →
        resolveAxes tree root kept seen sources =
          .ok (axes.filter fun axis => axis.name ∈ kept) := by
  induction sources with
  | nil =>
      intro seen axes h
      cases h
      rfl
  | cons source rest ih =>
      intro seen axes h
      unfold resolveAxes at h ⊢
      split at h
      · cases h
      rename_i hfresh
      rw [if_neg hfresh]
      split at h
      · obtain ⟨axis, haxis, h⟩ := bind_eq_ok_iff.1 h
        obtain ⟨others, hothers, h⟩ := bind_eq_ok_iff.1 h
        cases h
        have hname := AxisSource.resolve_name haxis
        by_cases hkept : source.name ∈ kept
        · rw [if_pos hkept, List.filter_cons_of_pos (by simpa [hname] using hkept)]
          exact bind_eq_ok_iff.2 ⟨axis, haxis, bind_eq_ok_iff.2 ⟨_, ih hothers, rfl⟩⟩
        · rw [if_neg hkept, List.filter_cons_of_neg (by simpa [hname] using hkept)]
          exact ih hothers
      · rename_i hnot
        rw [if_neg fun hkept => hnot (hsub hkept)]
        exact ih h

theorem referencedAxes_subset {groups kept : List Group} (hsub : kept ⊆ groups) :
    referencedAxes kept ⊆ referencedAxes groups := by
  intro name hname
  obtain ⟨t, ht, hname⟩ := List.mem_flatMap.1 hname
  obtain ⟨g, hg, ht⟩ := List.mem_flatMap.1 ht
  exact mem_referencedAxes (hsub hg) ht name hname

/-! ### Templates over fewer axes -/

section Templates

variable {axes axes' : List Axis} {t : StepTemplate}

/-- A name that a template refers to is known if one of its axes has it. -/
theorem StepTemplate.known_iff {name : String} (hname : name ∈ t.referencedAxes) :
    Known axes name ↔ Known (t.axesOf axes) name := by
  refine exists_congr fun axis => and_congr_left ?_
  rintro rfl
  simp [StepTemplate.axesOf, hname]

/-- Which axes a template uses is a matter of those that it refers to, -/
theorem StepTemplate.usedAxes_congr (h : t.axesOf axes = t.axesOf axes') :
    t.usedAxes axes = t.usedAxes axes' := by
  have hunknown : (t.referencedAxes.find? fun name => !axes.any (·.name = name)) =
      t.referencedAxes.find? fun name => !axes'.any (·.name = name) := by
    refine List.find?_congr fun name hname => ?_
    rw [Bool.eq_iff_iff, unknown_iff, unknown_iff, t.known_iff hname, h, ← t.known_iff hname]
  unfold StepTemplate.axesOf at h
  simp only [StepTemplate.usedAxes, hunknown, h]

/-- and so is what it is expanded to. -/
theorem expandFrom_congr {env : Environment} {templates : List StepTemplate}
    (h : ∀ t ∈ templates, t.axesOf axes = t.axesOf axes') :
    ∀ taken : List String,
      expandFrom env axes taken templates = expandFrom env axes' taken templates := by
  induction templates with
  | nil => exact fun _ => rfl
  | cons t rest ih =>
      obtain ⟨ht, hrest⟩ := List.forall_mem_cons.1 h
      have hfirst : expandTemplate env axes t = expandTemplate env axes' t := by
        unfold expandTemplate
        rw [t.usedAxes_congr ht]
      intro taken
      simp only [expandFrom, hfirst, ih hrest]

/-- Axes that a template does not refer to make no difference to these. -/
theorem StepTemplate.axesOf_filter {kept : List String} (hkept : t.referencedAxes ⊆ kept)
    (axes : List Axis) : t.axesOf (axes.filter fun axis => axis.name ∈ kept) = t.axesOf axes := by
  rw [StepTemplate.axesOf, StepTemplate.axesOf, List.filter_filter]
  refine List.filter_congr fun axis _ => ?_
  by_cases hname : axis.name ∈ t.referencedAxes
  · simp [hname, hkept hname]
  · simp [hname]

end Templates

/-! ### Steps with fewer names taken -/

/-- What is placed among many names is placed among few. -/
theorem placeSteps_fewer {tree : FileTree} {root : Path} {group : String} {steps : List Step} :
    ∀ {taken fewer : List String} {placed : List Step}, fewer ⊆ taken →
      placeSteps tree root group taken steps = .ok placed →
        placeSteps tree root group fewer steps = .ok placed := by
  induction steps with
  | nil => exact fun _ h => h
  | cons s rest ih =>
      intro taken fewer placed hfewer h
      unfold placeSteps at h ⊢
      split at h
      · cases h
      · rename_i hfresh
        obtain ⟨commands, hcommands, h⟩ := bind_eq_ok_iff.1 h
        obtain ⟨others, hothers, h⟩ := bind_eq_ok_iff.1 h
        have hrest := ih (List.cons_subset_cons s.name hfewer) hothers
        rw [if_neg fun hmem => hfresh (hfewer hmem)]
        exact bind_eq_ok_iff.2 ⟨commands, hcommands, bind_eq_ok_iff.2 ⟨others, hrest, h⟩⟩

/-- Steps placed in a group are the steps of that group. -/
theorem placeSteps_group {tree : FileTree} {root : Path} {group : String} {taken : List String}
    {steps placed : List Step} (h : placeSteps tree root group taken steps = .ok placed) :
    ∀ step ∈ placed, step.group = group := by
  intro step hstep
  obtain ⟨source, -, hfrom⟩ := exists_of_mem_forall₂ (placeSteps_placedFrom h) hstep
  exact hfrom.group

/-! ### Fewer groups -/

/-- **The steps of fewer groups are the steps of these groups among those of all.** -/
theorem planGroups_restrict {tree : FileTree} {root : Path} {env : Environment} {axes : List Axis}
    {names kept : List String} {groups : List Group}
    (hkept : ∀ g ∈ groups, g.name ∈ names → ∀ t ∈ g.steps, t.referencedAxes ⊆ kept) :
    ∀ {taken fewer : List String} {steps : List Step}, fewer ⊆ taken →
      planGroups tree root env axes taken groups = .ok steps →
        planGroups tree root env (axes.filter fun axis => axis.name ∈ kept) fewer
            (groups.filter fun g => g.name ∈ names) =
          .ok (steps.filter fun step => step.group ∈ names) := by
  induction groups with
  | nil =>
      intro taken fewer steps _ h
      cases h
      rfl
  | cons g rest ih =>
      intro taken fewer steps hfewer h
      obtain ⟨expanded, placed, others, hexpanded, hplaced, hothers, rfl⟩ := planGroups_stages.1 h
      have hgroup := placeSteps_group hplaced
      have hkeptRest := fun other hother => hkept other (List.mem_cons_of_mem g hother)
      rw [List.filter_append]
      by_cases hname : g.name ∈ names
      · -- the group stays, and with it all of its steps
        have hall : (placed.filter fun step => step.group ∈ names) = placed := by
          refine List.filter_eq_self.2 fun step hstep => ?_
          rw [hgroup step hstep]
          exact decide_eq_true hname
        have hused : ∀ t ∈ g.steps,
            t.axesOf (axes.filter fun axis => axis.name ∈ kept) = t.axesOf axes :=
          fun t ht => t.axesOf_filter (hkept g List.mem_cons_self hname t ht) axes
        have hsame : expand env (axes.filter fun axis => axis.name ∈ kept) g.steps = .ok expanded :=
          (expandFrom_congr hused []).trans hexpanded
        have hbehind : placed.map Step.name ++ fewer ⊆ placed.map Step.name ++ taken :=
          List.append_subset.2 ⟨List.subset_append_left _ _,
            List.subset_append_of_subset_right _ hfewer⟩
        rw [hall, List.filter_cons_of_pos (by simpa using hname)]
        exact planGroups_stages.2 ⟨expanded, placed, _, hsame, placeSteps_fewer hfewer hplaced,
          ih hkeptRest hbehind hothers, rfl⟩
      · have hnone : (placed.filter fun step => step.group ∈ names) = [] := by
          refine List.filter_eq_nil_iff.2 fun step hstep => ?_
          rw [hgroup step hstep]
          simpa using hname
        rw [hnone, List.nil_append, List.filter_cons_of_neg (by simpa using hname)]
        exact ih hkeptRest (List.subset_append_of_subset_right _ hfewer) hothers

/-! ### Plans -/

/-- Behind the steps there is one more check: a plan has some. -/
theorem plan_of_stages {process : ProcessEnv} {tree : FileTree} {config : Config}
    {selection : Selection} {root : Path} {groups : List Group} {axes : List Axis}
    {steps : List Step} (hgroups : selection.resolve config = .ok groups)
    (haxes : resolveAxes tree root (referencedAxes groups) [] config.axes = .ok axes)
    (hsteps : planGroups tree root ⟨config.env, process⟩ axes [] groups = .ok steps) :
    plan process tree config selection root =
      if steps = [] then .error (.config .emptyRun) else .ok ⟨groups.map Group.name, steps⟩ := by
  rw [plan_of_selected hgroups, haxes]
  change (planGroups tree root ⟨config.env, process⟩ axes [] groups >>= _) = _
  rw [hsteps]
  cases steps with
  | nil => rfl
  | cons step rest => rfl

/-- **A selection of fewer groups restricts the plan**: its steps are those of its groups, unchanged
and in order, unless there are none. -/
theorem plan_restrict {process : ProcessEnv} {tree : FileTree} {config : Config}
    {selection smaller : Selection} {root : Path} {groups kept : List Group} {p : Plan}
    (hgroups : selection.resolve config = .ok groups) (hkept : smaller.resolve config = .ok kept)
    (hsub : kept ⊆ groups) (h : plan process tree config selection root = .ok p) :
    plan process tree config smaller root =
      let steps := p.steps.filter fun step => step.group ∈ kept.map Group.name
      if steps = [] then .error (.config .emptyRun) else .ok ⟨kept.map Group.name, steps⟩ := by
  obtain ⟨groups', axes, hgroups', haxes, hsteps, -, -⟩ := plan_eq_ok_iff.1 h
  rw [hgroups] at hgroups'
  cases hgroups'
  have hnames := Selection.resolve_restrict hgroups hkept hsub
  have hkeptAxes := resolveAxes_restrict (referencedAxes_subset hsub) haxes
  have hrefers : ∀ g ∈ groups, g.name ∈ kept.map Group.name →
      ∀ t ∈ g.steps, t.referencedAxes ⊆ referencedAxes kept := by
    intro g hg hname t ht
    refine mem_referencedAxes ?_ ht
    rw [hnames]
    exact List.mem_filter.2 ⟨hg, decide_eq_true hname⟩
  have hkeptSteps := planGroups_restrict hrefers (List.Subset.refl []) hsteps
  rw [← hnames] at hkeptSteps
  exact plan_of_stages hkept hkeptAxes hkeptSteps

/-! ### A suite of two groups -/

namespace Sample

/-- A group that refers to no axis. -/
def suiteGroup : Group :=
  ⟨"workspace", "", [⟨"format", none, [⟨"cargo fmt", none, none⟩]⟩]⟩

/-- The matrix with the group in front. -/
def suite : Config :=
  { matrix with groups := suiteGroup :: matrix.groups }

/-- The step of the group. -/
def suiteStep : Step :=
  ⟨"format", "workspace", [⟨"cargo", ["fmt"], .ofText "/", none⟩]⟩

theorem plan_suite :
    CheckMatrix.plan ⟨[], none⟩ project suite .default (.ofText "/") =
      .ok ⟨["workspace", "examples"], suiteStep :: matrixPlan.steps⟩ := by
  refine bind_eq_ok_iff.2 ⟨suite.groups, rfl, bind_eq_ok_iff.2 ⟨matrixAxes, ?_, ?_⟩⟩
  · have hreferenced : referencedAxes suite.groups = ["crate", "feature"] := by decide +kernel
    rw [hreferenced]
    exact checked_eq_ok_iff.2 resolveAxes_matrix
  · exact eq_ok_of_toOption (by decide +kernel)

/-- Selecting the group alone settles no axis and plans its step all the same. -/
theorem plan_restrict_suite :
    Selection.default.resolve suite = .ok suite.groups ∧
      (Selection.only ["workspace"]).resolve suite = .ok [suiteGroup] ∧
      [suiteGroup] ⊆ suite.groups ∧
      CheckMatrix.plan ⟨[], none⟩ project suite .default (.ofText "/") =
        .ok ⟨["workspace", "examples"], suiteStep :: matrixPlan.steps⟩ ∧
      CheckMatrix.plan ⟨[], none⟩ project suite (.only ["workspace"]) (.ofText "/") =
        .ok ⟨["workspace"], [suiteStep]⟩ := by
  have hgroups : Selection.default.resolve suite = .ok suite.groups := rfl
  have hkept : (Selection.only ["workspace"]).resolve suite = .ok [suiteGroup] :=
    eq_ok_of_toOption (by decide +kernel)
  have hsub : [suiteGroup] ⊆ suite.groups :=
    List.cons_subset.2 ⟨List.mem_cons_self, List.nil_subset _⟩
  refine ⟨hgroups, hkept, hsub, plan_suite, ?_⟩
  exact (plan_restrict hgroups hkept hsub plan_suite).trans (eq_ok_of_toOption (by decide +kernel))

end Sample

end CheckMatrix
