/-
A list of templates is expanded block by block.

What one template is expanded to is one computation for each of the combinations that are counted,
as soon as its lines are cut, its axes are settled and there is room (`expandTemplate_eq`).  What a
list of templates is expanded to are the blocks of its templates in a row, provided that no name
comes twice among all the steps (`expand_eq_ok_iff`).

A list that is refused is refused for what one of its templates is refused for, or for the name of a
step that one of them makes (`expand_eq_error`).
-/
import CheckMatrix.Proofs.Plan.Counting

namespace CheckMatrix

/-! ### One template -/

section Template

variable {env : Environment} {axes : List Axis} {t : StepTemplate}

/-- The combinations of a template that are counted. -/
def StepTemplate.countedBindings (axes : List Axis) (t : StepTemplate) : List Binding :=
  (t.bindingsOf axes).take (countedCombinations (t.axesOf axes))

/-- All combinations are counted if a word holds their number. -/
theorem StepTemplate.countedBindings_eq (hcount : combinations (t.axesOf axes) < 2 ^ 64) :
    t.countedBindings axes = t.bindingsOf axes := by
  have hcounted : countedCombinations (t.axesOf axes) = combinations (t.axesOf axes) :=
    Nat.mod_eq_of_lt hcount
  have hlength : (t.bindingsOf axes).length = combinations (t.axesOf axes) := by
    rw [StepTemplate.bindingsOf, length_bindingsOver, combinations_eq_prod]
  rw [StepTemplate.countedBindings, hcounted, ← hlength, List.take_length]

/-- **A template whose lines and axes are settled makes a step of each combination**, if there is
room for them. -/
theorem expandTemplate_eq (hcuts : t.Cuts) (hknown : ∀ name ∈ t.referencedAxes, Known axes name)
    (hfilled : Filled (t.axesOf axes)) :
    expandTemplate env axes t = (do
      askRoom (countedCombinations (t.axesOf axes))
      checked ((t.countedBindings axes).mapM
        (t.instantiate env (t.commands.map t.cutCommand)))) := by
  have hused := StepTemplate.usedAxes_eq_ok_iff.2 ⟨hknown, hfilled, rfl⟩
  have hcount : countedCombinations (t.axesOf axes) ≤ combinations (t.axesOf axes) :=
    Nat.mod_le _ _
  unfold expandTemplate
  rw [t.splitCommands_of_cuts hcuts, hused, StepTemplate.countedBindings, StepTemplate.bindingsOf,
    ← Cursor.walk_bindings_take hfilled hcount, List.mapM_map]
  rfl

theorem expandTemplate_eq_ok_iff {steps : List Step} :
    expandTemplate env axes t = .ok steps ↔
      t.Cuts ∧ (∀ name ∈ t.referencedAxes, Known axes name) ∧ Filled (t.axesOf axes) ∧
        countedCombinations (t.axesOf axes) ≤ mostSteps ∧
        (t.countedBindings axes).mapM (t.instantiate env (t.commands.map t.cutCommand)) =
          .ok steps := by
  have hsettled (hcuts : t.Cuts) (hknown : ∀ name ∈ t.referencedAxes, Known axes name)
      (hfilled : Filled (t.axesOf axes)) : expandTemplate env axes t = .ok steps ↔
        countedCombinations (t.axesOf axes) ≤ mostSteps ∧
        (t.countedBindings axes).mapM (t.instantiate env (t.commands.map t.cutCommand)) =
          .ok steps := by
    rw [expandTemplate_eq hcuts hknown hfilled]
    simp only [bind_eq_ok_iff, askRoom_eq_ok_iff, checked_eq_ok_iff, exists_const]
  constructor
  · intro h
    obtain ⟨commands, used, hcommands, -⟩ := expandTemplate_stages.1 h
    have hcuts := t.cuts_of_splitCommands hcommands
    obtain ⟨hknown, hfilled, -⟩ := expandTemplate_take h
    exact ⟨hcuts, hknown, hfilled, (hsettled hcuts hknown hfilled).1 h⟩
  · rintro ⟨hcuts, hknown, hfilled, h⟩
    exact (hsettled hcuts hknown hfilled).2 h

/-- A template is refused for its lines, for its axes, for want of room, or for a text under one of
its combinations. -/
theorem expandTemplate_eq_error {e : PlanError} (h : expandTemplate env axes t = .error e) :
    checked t.splitCommands = .error e ∨ checked (t.usedAxes axes) = .error e ∨ e = .overflow ∨
      ∃ b ∈ t.bindingsOf axes, ∃ text ∈ t.fillings,
        checked (expandWord env t b text) = .error e := by
  obtain hsplit | ⟨commands, hcommands, hused | ⟨used, hused, ⟨-, rfl⟩ | ⟨hroom, -⟩⟩⟩ :=
    expandTemplate_refused.1 h
  · exact .inl hsplit
  · exact .inr (.inl hused)
  · exact .inr (.inr (.inl rfl))
  obtain ⟨hknown, hfilled, rfl⟩ := StepTemplate.usedAxes_eq_ok_iff.1 hused
  rw [expandTemplate_eq (t.cuts_of_splitCommands hcommands) hknown hfilled,
    (askRoom_eq_ok_iff (u := ())).2 hroom, ok_bind,
    checked_mapM_eq_error_iff StepTemplate.not_definedUnder_iff] at h
  obtain ⟨b, hb, hchecked⟩ := h
  obtain ⟨cause, hstep, rfl⟩ := checked_eq_error_iff.1 hchecked
  obtain ⟨text, htext, hword⟩ := StepTemplate.instantiate_eq_error_iff.1 hstep
  exact .inr (.inr (.inr ⟨b, List.mem_of_mem_take hb.mem, text, htext.mem,
    checked_eq_config_iff.2 hword⟩))

end Template

/-! ### Lists of templates -/

section Lists

variable {env : Environment} {axes : List Axis}

/-- Names are taken from a list if they are different and free. -/
theorem takeNames_eq_ok_iff_nodup {taken names : List String} {steps : List Step} :
    takeNames taken steps = .ok names ↔
      ((steps.map Step.name).Nodup ∧ ∀ name ∈ steps.map Step.name, name ∉ taken) ∧
        names = taken ++ steps.map Step.name := by
  rw [takeNames_eq_ok_iff, firstRepeat?_eq_none_iff]

theorem expandFrom_eq_ok_iff_blocks {templates : List StepTemplate} {taken : List String}
    {steps : List Step} :
    expandFrom env axes taken templates = .ok steps ↔
      ∃ blocks,
        List.Forall₂ (fun t block => expandTemplate env axes t = .ok block) templates blocks ∧
        steps = blocks.flatten ∧ (steps.map Step.name).Nodup ∧
        ∀ name ∈ steps.map Step.name, name ∉ taken := by
  induction templates generalizing taken steps with
  | nil =>
      simp only [expandFrom, List.forall₂_nil_left_iff, exists_eq_left, List.flatten_nil,
        Except.ok.injEq]
      constructor
      · rintro rfl
        exact ⟨rfl, .nil, List.forall_mem_nil _⟩
      · rintro ⟨rfl, -⟩
        rfl
  | cons t rest ih =>
      simp only [expandFrom_stages, takeNames_eq_ok_iff_nodup, ih]
      constructor
      · rintro ⟨first, names, others, hfirst, ⟨⟨hnodup, hfree⟩, rfl⟩,
          ⟨blocks, hblocks, rfl, hnodups, hfrees⟩, rfl⟩
        have hapart : ∀ name ∈ first.map Step.name,
            ∀ other ∈ blocks.flatten.map Step.name, name ≠ other := by
          rintro name hname _ hother rfl
          exact hfrees name hother (List.mem_append_right _ hname)
        refine ⟨first :: blocks, .cons hfirst hblocks, rfl, ?_, ?_⟩
        · rw [List.map_append]
          exact List.nodup_append.2 ⟨hnodup, hnodups, hapart⟩
        · rw [List.map_append]
          refine List.forall_mem_append.2 ⟨hfree, fun name hname htaken => ?_⟩
          exact hfrees name hname (List.mem_append_left _ htaken)
      · rintro ⟨blocks, hblocks, rfl, hnodup, hfree⟩
        obtain ⟨first, others, hfirst, hothers, rfl⟩ := List.forall₂_cons_left_iff.1 hblocks
        rw [List.flatten_cons, List.map_append] at hnodup hfree
        obtain ⟨hhead, htail, hapart⟩ := List.nodup_append.1 hnodup
        obtain ⟨hfreeHead, hfreeTail⟩ := List.forall_mem_append.1 hfree
        refine ⟨first, _, _, hfirst, ⟨⟨hhead, hfreeHead⟩, rfl⟩, ⟨others, hothers, rfl, htail, ?_⟩,
          rfl⟩
        intro name hname hmem
        rcases List.mem_append.1 hmem with hmem | hmem
        · exact hfreeTail name hname hmem
        · exact hapart name hmem name hname rfl

/-- **Templates are expanded to their blocks in a row, if no name comes twice.** -/
theorem expand_eq_ok_iff {templates : List StepTemplate} {steps : List Step} :
    expand env axes templates = .ok steps ↔
      ∃ blocks,
        List.Forall₂ (fun t block => expandTemplate env axes t = .ok block) templates blocks ∧
        steps = blocks.flatten ∧ (steps.map Step.name).Nodup := by
  rw [expand, expandFrom_eq_ok_iff_blocks]
  simp

/-- Templates are refused for what one of them is refused for, or for the name of one of its
steps. -/
theorem expand_eq_error {templates : List StepTemplate} {e : PlanError}
    (h : expand env axes templates = .error e) :
    ∃ t ∈ templates, expandTemplate env axes t = .error e ∨
      ∃ steps step, expandTemplate env axes t = .ok steps ∧ step ∈ steps ∧
        e = .config (.duplicateStep step.name) := by
  unfold expand at h
  generalize ([] : List String) = taken at h
  induction templates generalizing taken with
  | nil => cases h
  | cons t rest ih =>
      obtain h | ⟨steps, hsteps, h⟩ := bind_eq_error_iff.1 h
      · exact ⟨t, List.mem_cons_self, .inl h⟩
      obtain h | ⟨names, -, h⟩ := bind_eq_error_iff.1 h
      · obtain ⟨cause, htaken, rfl⟩ := checked_eq_error_iff.1 h
        obtain ⟨name, hname, rfl⟩ := takeNames_eq_error_iff.1 htaken
        obtain ⟨before, after, heq, -⟩ := firstRepeat?_eq_some_iff.1 hname
        have hmem : name ∈ steps.map Step.name := heq ▸ by simp
        obtain ⟨step, hstep, rfl⟩ := List.mem_map.1 hmem
        exact ⟨t, List.mem_cons_self, .inr ⟨steps, step, hsteps, hstep, rfl⟩⟩
      · obtain h | ⟨others, -, h⟩ := bind_eq_error_iff.1 h
        · obtain ⟨u, hu, hcause⟩ := ih names h
          exact ⟨u, List.mem_cons_of_mem t hu, hcause⟩
        · cases h

end Lists

end CheckMatrix
