/-
Lists of templates are expanded one behind the other.

A list of templates behind another one is expanded with the names of the steps in front of it taken
(`expandFrom_append`).  Names that are taken never change a step, they can only stop the expansion,
and they do so at the first step that has one of them (`expandFrom_of_expandFrom`).  So two lists come to
one result exactly when each of them has a result and the results have no name in common, and what
stops the first list stops both (`expand_append`).
-/
import CheckMatrix.Proofs.Plan.Blocks

namespace CheckMatrix

section

variable {env : Environment} {axes : List Axis} {taken seen : List String}
  {templates : List StepTemplate} {steps : List Step}

/-- The names in front are taken for what stands behind. -/
theorem expandFrom_append (first second : List StepTemplate) (taken : List String) :
    expandFrom env axes taken (first ++ second) =
      expandFrom env axes taken first >>= fun steps =>
        expandFrom env axes (taken ++ steps.map Step.name) second >>= fun others =>
          pure (steps ++ others) := by
  induction first generalizing taken with
  | nil =>
      show _ = expandFrom env axes (taken ++ []) second >>= pure
      rw [List.append_nil, List.nil_append, bind_pure]
  | cons t rest ih =>
      simp only [List.cons_append, expandFrom, ih, bind_assoc, pure_bind]
      refine bind_congr fun block => ?_
      cases hnames : takeNames taken block with
      | error e => rfl
      | ok names =>
          obtain ⟨-, rfl⟩ := takeNames_eq_ok_iff.1 hnames
          simp only [checked_ok, ok_bind, List.map_append, List.append_assoc]

/-- Names that are taken do not change what templates are expanded to. -/
theorem expandFrom_eq_ok_iff_apart :
    expandFrom env axes taken templates = .ok steps ↔
      expand env axes templates = .ok steps ∧ ∀ name ∈ steps.map Step.name, name ∉ taken := by
  rw [expandFrom_eq_ok_iff_blocks, expand_eq_ok_iff]
  constructor
  · rintro ⟨blocks, hblocks, hsteps, hnodup, hfree⟩
    exact ⟨⟨blocks, hblocks, hsteps, hnodup⟩, hfree⟩
  · rintro ⟨⟨blocks, hblocks, hsteps, hnodup⟩, hfree⟩
    exact ⟨blocks, hblocks, hsteps, hnodup, hfree⟩

/-- Among different names that are not seen, the first repeat is the first that is taken. -/
theorem firstRepeat?_append (taken : List String) {names : List String} (hnodup : names.Nodup)
    (hfresh : ∀ name ∈ names, name ∉ seen) :
    firstRepeat? (taken ++ seen) names = names.find? fun name => name ∈ taken := by
  cases hfind : names.find? fun name => name ∈ taken with
  | none =>
      refine firstRepeat?_eq_none_iff.2 ⟨hnodup, fun name hname hmem => ?_⟩
      have hfree := List.find?_eq_none.1 hfind name hname
      rcases List.mem_append.1 hmem with hmem | hmem
      · exact hfree (decide_eq_true hmem)
      · exact hfresh name hname hmem
  | some name =>
      obtain ⟨htaken, before, after, rfl, hbefore⟩ := List.find?_eq_some_iff_append.1 hfind
      refine firstRepeat?_eq_some_iff.2 ⟨before, after, rfl, ⟨?_, fun other hother => ?_⟩, ?_⟩
      · exact (List.nodup_append.1 hnodup).1
      · have hfree : other ∉ taken := by simpa using hbefore other hother
        have hunseen := hfresh other (List.mem_append_left _ hother)
        simp [hfree, hunseen]
      · have hmem : name ∈ taken := by simpa using htaken
        exact .inl (List.mem_append_left _ hmem)

/-- **Templates that are expanded on their own are stopped by the first of their steps that has a
name which is taken.** -/
theorem expandFrom_of_expandFrom (taken : List String)
    (h : expandFrom env axes seen templates = .ok steps) :
    expandFrom env axes (taken ++ seen) templates =
      match (steps.map Step.name).find? fun name => name ∈ taken with
      | some name => .error (.config (.duplicateStep name))
      | none => .ok steps := by
  induction templates generalizing seen steps with
  | nil =>
      cases h
      rfl
  | cons t rest ih =>
      obtain ⟨block, names, others, hblock, hnames, hothers, rfl⟩ := expandFrom_stages.1 h
      obtain ⟨⟨hnodup, hfresh⟩, rfl⟩ := takeNames_eq_ok_iff_nodup.1 hnames
      have hrepeat := firstRepeat?_append taken hnodup hfresh
      rw [List.map_append, List.find?_append]
      simp only [expandFrom, hblock, ok_bind]
      cases hfind : (block.map Step.name).find? fun name => name ∈ taken with
      | some name =>
          have hstop : takeNames (taken ++ seen) block = .error (.duplicateStep name) :=
            takeNames_eq_error_iff.2 ⟨name, hrepeat.trans hfind, rfl⟩
          rw [hstop, checked_error, error_bind, Option.some_or]
      | none =>
          have hgo : takeNames (taken ++ seen) block =
              .ok (taken ++ seen ++ block.map Step.name) :=
            takeNames_eq_ok_iff.2 ⟨hrepeat.trans hfind, rfl⟩
          rw [hgo, checked_ok, ok_bind, List.append_assoc, ih hothers, Option.none_or]
          cases (others.map Step.name).find? fun name => name ∈ taken <;> rfl

/-- Two lists, the one behind the other. -/
theorem expand_append_eq (first second : List StepTemplate) :
    expand env axes (first ++ second) =
      expand env axes first >>= fun front =>
        expandFrom env axes (front.map Step.name) second >>= fun back => pure (front ++ back) := by
  rw [expand, expandFrom_append]
  rfl

end

/-- **Expansion composes over lists of templates.**  One list behind another is expanded exactly when
each is and no step of the one has the name of a step of the other, and then to the steps of the one
and the steps of the other.  A list that is refused is refused for the same reason whatever stands
behind it.  Two lists that are expanded one by one are refused together only for a name that they
share, which is the first of the second list that is one of the first. -/
theorem expand_append (env : Environment) (axes : List Axis) (first second : List StepTemplate) :
    (∀ steps, expand env axes (first ++ second) = .ok steps ↔
      ∃ front back, expand env axes first = .ok front ∧ expand env axes second = .ok back ∧
        (front.map Step.name).Disjoint (back.map Step.name) ∧ steps = front ++ back) ∧
    (∀ e, expand env axes first = .error e → expand env axes (first ++ second) = .error e) ∧
    ∀ front back, expand env axes first = .ok front → expand env axes second = .ok back →
      ∀ e, expand env axes (first ++ second) = .error e ↔
        ∃ name, e = .config (.duplicateStep name) ∧
          FirstOf (· ∈ front.map Step.name) (back.map Step.name) name := by
  rw [expand_append_eq]
  refine ⟨fun steps => ⟨fun h => ?_, ?_⟩, fun e h => ?_, fun front back hfront hback e => ?_⟩
  · obtain ⟨front, hfront, h⟩ := bind_eq_ok_iff.1 h
    obtain ⟨back, hback, h⟩ := bind_eq_ok_iff.1 h
    cases h
    obtain ⟨hback, hfree⟩ := expandFrom_eq_ok_iff_apart.1 hback
    exact ⟨front, back, hfront, hback, fun name hname hmem => hfree name hmem hname, rfl⟩
  · rintro ⟨front, back, hfront, hback, hapart, rfl⟩
    have hfree : ∀ name ∈ back.map Step.name, name ∉ front.map Step.name :=
      fun name hname hmem => hapart hmem hname
    have hbehind := expandFrom_eq_ok_iff_apart.2 ⟨hback, hfree⟩
    exact bind_eq_ok_iff.2 ⟨front, hfront, bind_eq_ok_iff.2 ⟨back, hbehind, rfl⟩⟩
  · rw [h, error_bind]
  · have hbehind := expandFrom_of_expandFrom (front.map Step.name) hback
    rw [List.append_nil] at hbehind
    rw [hfront, ok_bind, hbehind]
    simp only [firstOf_iff_find? fun name => decide_eq_true_iff]
    cases hfind : (back.map Step.name).find? fun name => name ∈ front.map Step.name with
    | none => simp [ok_bind, pure, Except.pure]
    | some name => simp [eq_comm]

end CheckMatrix
