/-
A plan is the product of its axes, written out.

The reference is an enumeration without cursors, checks or errors: the selected groups in configured
order, in each the templates in order, and for each template the combinations of the values of the
axes it refers to.  An axis has its listed values and behind them, directory by directory, what was
discovered.  Every plan has one step for each member of the enumeration, in its order, made from
that member's template and combination (`plan_enumerates`).

Planning reaches this in two detours.  It settles the values of all axes that any selected template
refers to, and filters them again for each template; the two filters come to one because the order
of the configuration is kept (`usedAxes_values`).  And it lets a cursor move as often as a 64-bit
count of the combinations says, which is why the number of combinations has to fit.
-/
import CheckMatrix.Proofs.Plan.Combinations
import CheckMatrix.Proofs.Plan.Origin
import CheckMatrix.Proofs.Plan.Selecting
import Mathlib.Algebra.BigOperators.Group.List.Basic

namespace CheckMatrix

/-! ### The values of an axis -/

/-- The values of an axis: those listed, then the sub-directories found in each of its directories,
in order. -/
def AxisSource.valuesIn (tree : FileTree) (root : Path) (source : AxisSource) : List String :=
  source.values ++ source.dirsIn.flatMap fun dir => (tree.listSubdirs root dir).toOption.getD []

/-- The axes of a configuration that a template refers to, in configured order, with their
values. -/
def StepTemplate.axesIn (tree : FileTree) (root : Path) (sources : List AxisSource)
    (t : StepTemplate) : List (String × List String) :=
  (sources.filter fun source => source.name ∈ t.referencedAxes).map fun source =>
    (source.name, source.valuesIn tree root)

/-- An axis with its values. -/
def Axis.entry (axis : Axis) : String × List String :=
  (axis.name, axis.values)

theorem AxisSource.resolve_eq_ok {tree : FileTree} {root : Path} {source : AxisSource} {axis : Axis}
    (h : source.resolve tree root = .ok axis) :
    axis.entry = (source.name, source.valuesIn tree root) := by
  obtain ⟨found, hfound, h⟩ := bind_eq_ok_iff.1 h
  obtain ⟨hname, hvalues⟩ := Axis.ofValues_eq_ok_iff.1 h
  have hall : found = source.dirsIn.map fun dir =>
      (tree.listSubdirs root dir).toOption.getD [] := by
    have hlists := mapM_eq_ok_iff.1 hfound
    refine (List.map_id _).symm.trans (map_eq_of_forall₂ (fun dir names hnames => ?_) hlists)
    split at hnames
    · rename_i hlist
      cases hnames
      rw [hlist]
      rfl
    · cases hnames
  rw [Axis.entry, hname, hvalues, hall, ← List.flatMap_def]
  rfl

/-- What becomes of the axes somebody refers to. -/
theorem resolveAxes_values {tree : FileTree} {root : Path} {referenced : List String}
    {sources : List AxisSource} :
    ∀ {seen : List String} {axes : List Axis},
      resolveAxes tree root referenced seen sources = .ok axes →
        axes.map Axis.entry = (sources.filter fun source => source.name ∈ referenced).map
          fun source => (source.name, source.valuesIn tree root) := by
  induction sources with
  | nil =>
      intro seen axes h
      cases h
      rfl
  | cons source rest ih =>
      intro seen axes h
      unfold resolveAxes at h
      split at h
      · cases h
      split at h
      · rename_i hreferenced
        obtain ⟨axis, haxis, h⟩ := bind_eq_ok_iff.1 h
        obtain ⟨others, hothers, h⟩ := bind_eq_ok_iff.1 h
        cases h
        rw [List.filter_cons_of_pos (by simpa using hreferenced), List.map_cons, List.map_cons,
          AxisSource.resolve_eq_ok haxis, ih hothers]
      · rename_i hnot
        rw [List.filter_cons_of_neg (by simpa using hnot)]
        exact ih h

/-! ### The combinations of a template -/

theorem StepTemplate.usedAxes_eq_ok {t : StepTemplate} {axes used : List Axis}
    (h : t.usedAxes axes = .ok used) :
    used = axes.filter (fun axis => t.referencedAxes.contains axis.name) ∧ Filled used := by
  unfold StepTemplate.usedAxes at h
  simp only at h
  split at h
  · cases h
  · split at h
    · cases h
    · rename_i hfind
      cases h
      refine ⟨rfl, fun axis haxis hempty => ?_⟩
      have hfilled := List.find?_eq_none.1 hfind axis haxis
      exact hfilled (List.isEmpty_iff.2 hempty)

/-- The axes that a template uses are those that it refers to, in configured order. -/
theorem StepTemplate.usedAxes_values {tree : FileTree} {root : Path} {referenced : List String}
    {sources : List AxisSource} {t : StepTemplate} {axes used : List Axis}
    (hsources : axes.map Axis.entry = (sources.filter fun source => source.name ∈ referenced).map
      fun source => (source.name, source.valuesIn tree root))
    (hreferenced : ∀ name ∈ t.referencedAxes, name ∈ referenced)
    (h : t.usedAxes axes = .ok used) : used.map Axis.entry = t.axesIn tree root sources := by
  obtain ⟨rfl, -⟩ := t.usedAxes_eq_ok h
  have hentries : (axes.filter fun axis => t.referencedAxes.contains axis.name).map Axis.entry =
      (axes.map Axis.entry).filter fun entry => t.referencedAxes.contains entry.1 := by
    rw [List.filter_map]
    rfl
  rw [hentries, hsources, List.filter_map, List.filter_filter, StepTemplate.axesIn]
  congr 1
  refine List.filter_congr fun source _ => ?_
  by_cases hname : source.name ∈ t.referencedAxes
  · simp [hname, hreferenced _ hname]
  · simp [hname]

/-- The combinations that a template is expanded over. -/
def StepTemplate.bindings (tree : FileTree) (root : Path) (sources : List AxisSource)
    (t : StepTemplate) : List Binding :=
  bindingsOver (t.axesIn tree root sources)

/-- The number of combinations fits into a 64-bit word. -/
def StepTemplate.Countable (tree : FileTree) (root : Path) (sources : List AxisSource)
    (t : StepTemplate) : Prop :=
  ((t.axesIn tree root sources).map fun axis => axis.2.length).prod < 2 ^ 64

theorem combinations_eq_prod (axes : List Axis) :
    combinations axes = ((axes.map Axis.entry).map fun axis => axis.2.length).prod := by
  rw [List.map_map]
  exact List.prod_eq_foldr.symm

/-- A template expands over all of its combinations if they can be counted. -/
theorem StepTemplate.bindings_account {env : Environment} {tree : FileTree} {root : Path}
    {referenced : List String} {sources : List AxisSource} {t : StepTemplate} {axes : List Axis}
    (hsources : axes.map Axis.entry = (sources.filter fun source => source.name ∈ referenced).map
      fun source => (source.name, source.valuesIn tree root))
    (hreferenced : ∀ name ∈ t.referencedAxes, name ∈ referenced)
    (hcount : t.Countable tree root sources) :
    Accounts env axes (StepTemplate.bindings tree root sources) t := by
  intro steps h
  obtain ⟨used, hused, hmade⟩ := expandTemplate_made h
  have hvalues := t.usedAxes_values hsources hreferenced hused
  have hcounted : countedCombinations used = combinations used := by
    refine Nat.mod_eq_of_lt ?_
    rw [combinations_eq_prod, hvalues]
    exact hcount
  have hwalk := Cursor.walk_bindings (t.usedAxes_eq_ok hused).2
  rw [hcounted, hwalk, show used.map (fun axis => (axis.name, axis.values)) = _ from hvalues] at hmade
  exact hmade

/-! ### Plans -/

/-- What a selected template refers to is referred to. -/
theorem mem_referencedAxes {groups : List Group} {g : Group} {t : StepTemplate} (hg : g ∈ groups)
    (ht : t ∈ g.steps) : ∀ name ∈ t.referencedAxes, name ∈ referencedAxes groups := by
  intro name hname
  exact List.mem_flatMap.2 ⟨t, List.mem_flatMap.2 ⟨g, hg, ht⟩, hname⟩

/-- **A plan has one step for every combination of every selected template**, in the order of the
groups, of the templates in them and of the combinations, each step made from its template and
combination. -/
theorem plan_enumerates {process : ProcessEnv} {tree : FileTree} {config : Config}
    {selection : Selection} {root : Path} {p : Plan}
    (h : plan process tree config selection root = .ok p) :
    ∃ groups, selection.resolve config = .ok groups ∧ groups.Sublist config.groups ∧
      ((∀ g ∈ groups, ∀ t ∈ g.steps, t.Countable tree root config.axes) →
        List.Forall₂
          (fun e step => Step.MadeFrom ⟨config.env, process⟩ tree root e.1 e.2.1 e.2.2 step)
          (origins (StepTemplate.bindings tree root config.axes) groups) p.steps) := by
  obtain ⟨groups, axes, hgroups, haxes, hsteps, -, -⟩ := plan_eq_ok_iff.1 h
  refine ⟨groups, hgroups, Selection.resolve_sublist hgroups, fun hcount => ?_⟩
  refine planGroups_made (fun g hg t ht => ?_) hsteps
  exact StepTemplate.bindings_account (resolveAxes_values haxes) (mem_referencedAxes hg ht)
    (hcount g hg t ht)

/-! ### A matrix of two axes -/

namespace Sample

/-- A template that refers to two axes. -/
def matrixTemplate : StepTemplate where
  label := "test {crate} with {feature}"
  dir := some "{crate}"
  commands := [⟨"cargo test --features {feature}", none, some "{feature}.log"⟩]

/-- The two axes in the other order, and one that nobody refers to. -/
def matrix : Config where
  language := Config.defaultLanguage
  env := .empty
  defaultGroups := none
  axes := [⟨"feature", ["std", "wasm"], []⟩, ⟨"unused", [], ["nowhere"]⟩,
    ⟨"crate", ["core"], ["examples"]⟩]
  groups := [⟨"examples", "", [matrixTemplate]⟩]

/-- A project of one crate and one example. -/
def project : FileTree where
  entries := [([.ofText "core"], .dir), ([.ofText "examples"], .dir),
    ([.ofText "examples", .ofText "abi"], .dir)]
  cwd := []

/-- One step of the plan. -/
def matrixStep (crate feature : String) : Step where
  name := "test " ++ crate ++ " with " ++ feature
  group := "examples"
  commands := [⟨"cargo", ["test", "--features", feature], .ofText ("/" ++ crate),
    some (.ofText ("/" ++ feature ++ ".log"))⟩]

/-- The plan for the matrix: the first axis of the configuration changes last. -/
def matrixPlan : Plan where
  groups := ["examples"]
  steps := [matrixStep "core" "std", matrixStep "examples/abi" "std",
    matrixStep "core" "wasm", matrixStep "examples/abi" "wasm"]

theorem project_found : project.listSubdirs (.ofText "/") "examples" = .ok ["examples/abi"] := by
  have hfind : project.find ((Path.ofText "/").join (.ofText "examples")) =
      .ok ([.ofText "examples"], .dir) := eq_ok_of_toOption (by decide +kernel)
  have hnames : ((project.children [.ofText "examples"]).filterMap FileTree.textName?).filter
      (fun name => project.isDirectory
          (((Path.ofText "/").join (.ofText "examples")).join (.ofText name)) &&
        decide (name.toList.head? ≠ some '.')) = ["abi"] := by decide +kernel
  have hprefix : (Path.ofText "examples").unslashed.shown = "examples" := by decide +kernel
  simp only [FileTree.listSubdirs, hfind, FileTree.subdirNames, hnames, List.mergeSort_singleton,
    List.map_cons, List.map_nil, hprefix]
  rfl

/-- The axes that the template refers to, as they are resolved. -/
def matrixAxes : List Axis :=
  [⟨"feature", ["std", "wasm"], by decide⟩, ⟨"crate", ["core", "examples/abi"], by decide⟩]

theorem resolveAxes_matrix :
    resolveAxes project (.ofText "/") ["crate", "feature"] [] matrix.axes = .ok matrixAxes := by
  have hcrate : AxisSource.resolve project (.ofText "/") ⟨"crate", ["core"], ["examples"]⟩ =
      .ok ⟨"crate", ["core", "examples/abi"], by decide⟩ := by
    refine bind_eq_ok_iff.2 ⟨[["examples/abi"]], mapM_eq_ok_iff.2 (.cons ?_ .nil), ?_⟩
    · rw [project_found]
    · exact Axis.ofValues_eq_ok_iff.2 ⟨rfl, rfl⟩
  have hfeature : AxisSource.resolve project (.ofText "/") ⟨"feature", ["std", "wasm"], []⟩ =
      .ok ⟨"feature", ["std", "wasm"], by decide⟩ :=
    bind_eq_ok_iff.2 ⟨[], rfl, Axis.ofValues_eq_ok_iff.2 ⟨rfl, rfl⟩⟩
  simp [resolveAxes, matrix, hcrate, hfeature]
  rfl

theorem plan_matrix :
    CheckMatrix.plan ⟨[], none⟩ project matrix .default (.ofText "/") = .ok matrixPlan := by
  refine bind_eq_ok_iff.2 ⟨matrix.groups, rfl, bind_eq_ok_iff.2 ⟨matrixAxes, ?_, ?_⟩⟩
  · have hreferenced : referencedAxes matrix.groups = ["crate", "feature"] := by decide +kernel
    rw [hreferenced]
    exact checked_eq_ok_iff.2 resolveAxes_matrix
  · exact eq_ok_of_toOption (by decide +kernel)

/-- The four steps of the plan are the four combinations. -/
theorem plan_enumerates_matrix :
    CheckMatrix.plan ⟨[], none⟩ project matrix .default (.ofText "/") = .ok matrixPlan ∧
      (∀ g ∈ matrix.groups, ∀ t ∈ g.steps, t.Countable project (.ofText "/") matrix.axes) ∧
      List.Forall₂
        (fun e step =>
          Step.MadeFrom ⟨matrix.env, ⟨[], none⟩⟩ project (.ofText "/") e.1 e.2.1 e.2.2 step)
        (origins (StepTemplate.bindings project (.ofText "/") matrix.axes) matrix.groups)
        matrixPlan.steps := by
  obtain ⟨groups, hgroups, -, h⟩ := plan_enumerates plan_matrix
  cases hgroups
  have hcount : ∀ g ∈ matrix.groups, ∀ t ∈ g.steps,
      t.Countable project (.ofText "/") matrix.axes := by
    intro g hg t ht
    rw [List.mem_singleton.1 hg] at ht
    have hreferenced : matrixTemplate.referencedAxes = ["crate", "feature"] := by decide +kernel
    rw [List.mem_singleton.1 ht, StepTemplate.Countable, StepTemplate.axesIn, hreferenced]
    simp [matrix, AxisSource.valuesIn, project_found, Except.toOption]
  exact ⟨plan_matrix, hcount, h hcount⟩

end Sample

end CheckMatrix
