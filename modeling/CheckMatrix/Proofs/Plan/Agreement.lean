/-
What a plan does not depend on.

A configuration says more than one selection needs: other groups, other axes, descriptions, a
language.  Two configurations that agree on the rest have the same plan for the selection, or are
refused for the same reason.  `Config.AgreeFor` lists the rest.  It asks for all names of groups and
axes, since an unknown group and an axis that is defined twice are refused wherever they stand, but
for nothing else of a group that is not selected or an axis that no selected template refers to.

Agreement is carried through planning stage by stage.  The selection finds groups beside each other
(`Selection.resolve_agree`), the axes settle to the same ones or fail alike (`resolveAxes_agree`),
and the stage behind looks at the names and templates of groups only (`planGroups_alike`).
-/
import CheckMatrix.Proofs.Plan.Restriction

namespace CheckMatrix

/-- Two groups that differ in their description at most. -/
structure Group.Alike (g g' : Group) : Prop where
  name : g.name = g'.name
  steps : g.steps = g'.steps

/-- Two configurations that agree on what a selection reads of them. -/
structure Config.AgreeFor (selection : Selection) (c c' : Config) : Prop where
  env : c.env = c'.env
  defaultGroups : c.defaultGroups = c'.defaultGroups
  groupNames : c.groups.map Group.name = c'.groups.map Group.name
  axisNames : c.axes.map AxisSource.name = c'.axes.map AxisSource.name
  /-- Groups in the same place have the same templates if the selection finds them, -/
  groups : ∀ groups, selection.resolve c = .ok groups →
    ∀ e ∈ c.groups.zip c'.groups, e.1 ∈ groups → e.1.steps = e.2.steps
  /-- and axes in the same place are the same if one of these templates refers to them. -/
  axes : ∀ groups, selection.resolve c = .ok groups →
    ∀ e ∈ c.axes.zip c'.axes, e.1.name ∈ referencedAxes groups → e.1 = e.2

/-- Members of two lists in the same place, if a function has the same values on the lists. -/
theorem forall₂_of_map_eq {α γ : Type} {f : α → γ} {R : α → α → Prop} {xs ys : List α}
    (hmap : xs.map f = ys.map f) (hR : ∀ e ∈ xs.zip ys, f e.1 = f e.2 → R e.1 e.2) :
    List.Forall₂ R xs ys := by
  have hvalues : List.Forall₂ (fun x y => f x = f y) xs ys := by
    rw [← List.forall₂_eq_eq_eq, List.forall₂_map_left_iff, List.forall₂_map_right_iff] at hmap
    exact hmap
  obtain ⟨hlength, hzip⟩ := List.forall₂_iff_zip.1 hvalues
  exact List.forall₂_iff_zip.2 ⟨hlength, fun hmem => hR _ hmem (hzip hmem)⟩

/-! ### Selecting -/

/-- Which names are unknown depends on the names of the groups. -/
theorem any_name_eq {groups groups' : List Group}
    (hnames : groups.map Group.name = groups'.map Group.name) (name : String) :
    groups.any (·.name = name) = groups'.any (·.name = name) := by
  have hmap : ∀ gs : List Group, gs.any (·.name = name) = (gs.map Group.name).any (· = name) := by
    intro gs
    rw [List.any_map]
    rfl
  rw [hmap, hmap, hnames]

/-- A selection finds the same groups, or the same name unknown. -/
theorem Selection.resolve_agree {selection : Selection} {c c' : Config}
    (h : c.AgreeFor selection c') :
    (∃ e, selection.resolve c = .error e ∧ selection.resolve c' = .error e) ∨
      ∃ groups groups', selection.resolve c = .ok groups ∧ selection.resolve c' = .ok groups' ∧
        List.Forall₂ Group.Alike groups groups' := by
  have hwanted : selection.wanted? c' = selection.wanted? c := by
    cases selection with
    | default => exact h.defaultGroups.symm
    | only names => rfl
  -- a group that is selected has the templates of the one beside it
  have hbeside : ∀ groups, selection.resolve c = .ok groups → List.Forall₂
      (fun g g' => g.name = g'.name ∧ (g ∈ groups → g.steps = g'.steps)) c.groups c'.groups :=
    fun groups hgroups =>
      forall₂_of_map_eq h.groupNames fun e he hname => ⟨hname, h.groups groups hgroups e he⟩
  have halike : ∀ groups groups' : List Group, List.Forall₂
      (fun g g' => g.name = g'.name ∧ (g ∈ groups → g.steps = g'.steps)) groups groups' →
        List.Forall₂ Group.Alike groups groups' := by
    intro groups groups' hall
    have hmem := (List.forall₂_and_left groups groups').2 ⟨fun g hg => hg, hall⟩
    exact hmem.imp fun g g' ⟨hg, hname, hsteps⟩ => ⟨hname, hsteps hg⟩
  cases hnames : selection.wanted? c with
  | none =>
      have hgroups := Selection.resolve_of_all hnames
      refine Or.inr ⟨c.groups, c'.groups, hgroups, ?_, halike _ _ (hbeside _ hgroups)⟩
      exact Selection.resolve_of_all (hwanted.trans hnames)
  | some names =>
      have hgroups := Selection.resolve_of_names hnames
      have hgroups' := Selection.resolve_of_names (hwanted.trans hnames)
      simp only [← any_name_eq h.groupNames] at hgroups'
      cases hfind : names.find? fun name => !c.groups.any (·.name = name) with
      | some unknown =>
          simp only [hfind] at hgroups hgroups'
          exact Or.inl ⟨.unknownGroup unknown, hgroups, hgroups'⟩
      | none =>
          simp only [hfind] at hgroups hgroups'
          refine Or.inr ⟨_, _, hgroups, hgroups', halike _ _ ?_⟩
          refine List.rel_filter (fun g g' hg => ?_) (hbeside _ hgroups)
          simp only [hg.1]

/-! ### Settling the axes -/

/-- Axes that nobody refers to count by their names only. -/
theorem resolveAxes_agree {tree : FileTree} {root : Path} {referenced : List String}
    {sources sources' : List AxisSource}
    (h : List.Forall₂ (fun a a' => a.name = a'.name ∧ (a.name ∈ referenced → a = a'))
      sources sources') :
    ∀ seen : List String, resolveAxes tree root referenced seen sources =
      resolveAxes tree root referenced seen sources' := by
  induction h with
  | nil => exact fun _ => rfl
  | @cons a a' rest rest' hhead _ ih =>
      intro seen
      obtain ⟨hname, hsame⟩ := hhead
      by_cases hreferenced : a.name ∈ referenced
      · rw [← hsame hreferenced]
        simp only [resolveAxes, ih]
      · have hreferenced' : a'.name ∉ referenced := hname ▸ hreferenced
        simp only [resolveAxes, if_neg hreferenced', hname, ih]

/-! ### Placing the steps -/

theorem referencedAxes_alike {groups groups' : List Group}
    (h : List.Forall₂ Group.Alike groups groups') :
    referencedAxes groups = referencedAxes groups' := by
  have hsteps : groups.flatMap Group.steps = groups'.flatMap Group.steps := by
    rw [List.flatMap_def, List.flatMap_def,
      map_eq_of_forall₂ (fun g g' halike => halike.steps.symm) h]
  rw [referencedAxes, referencedAxes, hsteps]

theorem planGroups_alike {tree : FileTree} {root : Path} {env : Environment} {axes : List Axis}
    {groups groups' : List Group} (h : List.Forall₂ Group.Alike groups groups') :
    ∀ taken : List String, planGroups tree root env axes taken groups =
      planGroups tree root env axes taken groups' := by
  induction h with
  | nil => exact fun _ => rfl
  | cons halike _ ih =>
      intro taken
      simp only [planGroups, halike.name, halike.steps, ih]

/-! ### Plans -/

/-- **What is not selected has no influence on a plan**, nor on what is wrong with it. -/
theorem plan_agree {process : ProcessEnv} {tree : FileTree} {c c' : Config} {selection : Selection}
    {root : Path} (h : c.AgreeFor selection c') :
    plan process tree c selection root = plan process tree c' selection root := by
  obtain ⟨e, hfails, hfails'⟩ | ⟨groups, groups', hgroups, hgroups', halike⟩ :=
    Selection.resolve_agree h
  · rw [plan_of_refused hfails, plan_of_refused hfails']
  · have haxes : resolveAxes tree root (referencedAxes groups) [] c.axes =
        resolveAxes tree root (referencedAxes groups') [] c'.axes := by
      rw [← referencedAxes_alike halike]
      refine resolveAxes_agree (forall₂_of_map_eq h.axisNames fun e he hname => ⟨hname, ?_⟩) []
      exact h.axes groups hgroups e he
    have hnames : groups'.map Group.name = groups.map Group.name :=
      map_eq_of_forall₂ (fun g g' halike => halike.name.symm) halike
    rw [plan_of_selected hgroups, plan_of_selected hgroups', haxes, ← h.env, hnames]
    refine bind_congr fun axes => ?_
    rw [planGroups_alike halike]

/-! ### A suite that is broken elsewhere -/

namespace Sample

/-- The suite in another language, with a description, another group without templates, and axes
that cannot be settled. -/
def brokenSuite : Config where
  language := "zh-CN"
  env := .empty
  defaultGroups := none
  axes := [⟨"feature", ["std", "std"], []⟩, ⟨"unused", [], []⟩, ⟨"crate", [], ["nowhere"]⟩]
  groups := [{ suiteGroup with description := "formatting" }, ⟨"examples", "", []⟩]

theorem suite_agree : suite.AgreeFor (.only ["workspace"]) brokenSuite := by
  have hgroups : (Selection.only ["workspace"]).resolve suite = .ok [suiteGroup] :=
    eq_ok_of_toOption (by decide +kernel)
  have hreferenced : referencedAxes [suiteGroup] = [] := by decide +kernel
  refine ⟨rfl, rfl, rfl, rfl, ?_, ?_⟩
  · intro groups hresolve
    rw [hgroups] at hresolve
    cases hresolve
    decide +kernel
  · intro groups hresolve
    rw [hgroups] at hresolve
    cases hresolve
    simp [hreferenced]

/-- The plan for the group that both have is the same. -/
theorem plan_agree_suite :
    suite.AgreeFor (.only ["workspace"]) brokenSuite ∧
      CheckMatrix.plan ⟨[], none⟩ project suite (.only ["workspace"]) (.ofText "/") =
        CheckMatrix.plan ⟨[], none⟩ project brokenSuite (.only ["workspace"]) (.ofText "/") ∧
      CheckMatrix.plan ⟨[], none⟩ project suite (.only ["workspace"]) (.ofText "/") =
        .ok ⟨["workspace"], [suiteStep]⟩ :=
  ⟨suite_agree, plan_agree suite_agree, eq_ok_of_toOption (by decide +kernel)⟩

end Sample

end CheckMatrix
