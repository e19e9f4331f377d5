/-
The axes that a template refers to are those that its steps depend on.

Which axes a template is enumerated over is read off its texts as they are written, and values go
into the words that its lines are cut into.  A line without seams has the same placeholders in either
form (`Words.Seamless.names`), and labels, directories and log files have only one form.  So the axes
a template refers to are those named in what its steps are made of, every placeholder there has a
value, and no axis has values that nothing depends on (`StepTemplate.references_exact`).

The quoting of a line may put a placeholder together that nobody looks for, and its comment may have
one that nothing depends on (`Sample.references_with_seams`).
-/
import CheckMatrix.Proofs.Plan.Counting
import CheckMatrix.Proofs.Text.Seams

namespace CheckMatrix

/-! ### What a step depends on -/

/-- The line of a command can be cut, and neither quoting nor a comment gets in the way of its
placeholders. -/
def CommandTemplate.Seamless (c : CommandTemplate) : Prop :=
  (Words.split c.run).isSome ∧ Words.Seamless .gap false c.run.toList

instance (c : CommandTemplate) : Decidable c.Seamless :=
  inferInstanceAs (Decidable (_ ∧ _))

/-- The texts of a command, its line cut into words. -/
def CommandTemplate.cutTexts (c : CommandTemplate) : List String :=
  c.words ++ (c.dir.toList ++ c.log.toList)

/-- The texts of a template, its lines cut into words. -/
def StepTemplate.cutTexts (t : StepTemplate) : List String :=
  t.label :: (t.dir.toList ++ t.commands.flatMap CommandTemplate.cutTexts)

theorem CommandTemplate.names_words {c : CommandTemplate} (h : c.Seamless) :
    c.words.flatMap Piece.names = Piece.names c.run := by
  have hsome : (Words.split (Marks.mark c.run)).isSome := by
    rw [← Option.isSome_map (f := List.length), Words.length_split_mark, Option.isSome_map]
    exact h.1
  obtain ⟨words, hwords⟩ := Option.isSome_iff_exists.1 hsome
  rw [CommandTemplate.words, hwords]
  exact h.2.names hwords

/-- A template refers to the axes that are named in its words, directories, log files and label. -/
theorem StepTemplate.referencedAxes_eq {t : StepTemplate} (h : ∀ c ∈ t.commands, c.Seamless) :
    t.referencedAxes = keepFirst (· = ·) (t.cutTexts.flatMap Piece.names) := by
  have hcommands : t.commands.flatMap (fun c => c.texts.flatMap Piece.names) =
      t.commands.flatMap fun c => c.cutTexts.flatMap Piece.names := by
    refine List.flatMap_congr fun c hc => ?_
    rw [CommandTemplate.texts, CommandTemplate.cutTexts, List.flatMap_cons, List.flatMap_append,
      List.flatMap_append, List.flatMap_append, ← CommandTemplate.names_words (h c hc)]
  have hnames : (t.texts.flatMap Piece.scan).filterMap Piece.axis? =
      t.texts.flatMap Piece.names := List.filterMap_flatMap
  have htexts : t.texts.flatMap Piece.names = t.cutTexts.flatMap Piece.names := by
    simp only [StepTemplate.texts, StepTemplate.cutTexts, List.flatMap_cons, List.flatMap_append,
      List.flatMap_assoc, hcommands]
  rw [StepTemplate.referencedAxes, hnames, htexts]

theorem StepTemplate.mem_referencedAxes_iff {t : StepTemplate}
    (h : ∀ c ∈ t.commands, c.Seamless) {name : String} :
    name ∈ t.referencedAxes ↔ ∃ text ∈ t.cutTexts, name ∈ Piece.names text := by
  have hkeeps : Keeps (· = ·) (t.cutTexts.flatMap Piece.names) t.referencedAxes := by
    rw [t.referencedAxes_eq h]
    exact keepFirst_keeps (by simp) _
  rw [← List.mem_flatMap]
  constructor
  · exact hkeeps.only name
  · intro hname
    obtain ⟨other, hother, hsame⟩ := hkeeps.all name hname
    exact of_decide_eq_true hsame ▸ hother

/-- What is filled in is a part of the template, or the directory of a command that has none. -/
theorem StepTemplate.mem_cutTexts_of_mem_fillings {t : StepTemplate} {text : String}
    (h : text ∈ t.fillings) : text ∈ t.cutTexts ∨ text = "." := by
  obtain ⟨c, hc, htext⟩ := List.mem_flatMap.1 h
  have hpart : ∀ part ∈ c.cutTexts, part ∈ t.cutTexts := fun part hpart =>
    List.mem_cons_of_mem _ (List.mem_append_right _ (List.mem_flatMap.2 ⟨c, hc, hpart⟩))
  obtain hword | hrest := List.mem_append.1 htext
  · exact .inl (hpart _ (List.mem_append_left _ hword))
  · obtain rfl | hlog := List.mem_cons.1 hrest
    · cases hdir : c.dir with
      | some dir =>
          refine .inl (hpart _ (List.mem_append_right _ (List.mem_append_left _ ?_)))
          simp [StepTemplate.cutCommand, hdir]
      | none =>
          cases hstep : t.dir with
          | some dir => simp [StepTemplate.cutCommand, StepTemplate.cutTexts, hdir, hstep]
          | none => simp [StepTemplate.cutCommand, hdir, hstep]
    · refine .inl (hpart _ (List.mem_append_right _ (List.mem_append_right _ hlog)))

/-- A part of the template is filled in, or it is its directory and every command has one of its
own. -/
theorem StepTemplate.mem_fillings_of_mem_cutTexts {t : StepTemplate} {text : String}
    (h : text ∈ t.cutTexts) : text ∈ t.label :: t.fillings ∨
      t.dir = some text ∧ ∀ c ∈ t.commands, c.dir.isSome := by
  obtain rfl | h := List.mem_cons.1 h
  · exact .inl List.mem_cons_self
  obtain hdir | h := List.mem_append.1 h
  · rw [Option.mem_toList] at hdir
    by_cases hown : ∀ c ∈ t.commands, c.dir.isSome
    · exact .inr ⟨hdir, hown⟩
    · push Not at hown
      obtain ⟨c, hc, hnone⟩ := hown
      have hdirs : (t.cutCommand c).dir = text := by
        rw [StepTemplate.cutCommand, Option.not_isSome_iff_eq_none.1 hnone, hdir]
        rfl
      refine .inl (List.mem_cons_of_mem _ (List.mem_flatMap.2 ⟨c, hc, ?_⟩))
      rw [SplitCommand.texts, hdirs]
      simp
  · obtain ⟨c, hc, hpart⟩ := List.mem_flatMap.1 h
    refine .inl (List.mem_cons_of_mem _ (List.mem_flatMap.2 ⟨c, hc, ?_⟩))
    obtain hword | hrest := List.mem_append.1 hpart
    · exact List.mem_append_left _ hword
    · refine List.mem_append_right _ ?_
      obtain hdir | hlog := List.mem_append.1 hrest
      · rw [Option.mem_toList] at hdir
        rw [StepTemplate.cutCommand, hdir]
        exact List.mem_cons_self
      · exact List.mem_cons_of_mem _ hlog

/-! ### What a combination has values for -/

/-- A combination has a value for every placeholder of a text. -/
def Binding.Covers (b : Binding) (text : String) : Prop :=
  ∀ name ∈ Piece.names text, (b.lookup name).isSome

/-- Every step is made of a combination for the axes that its template refers to. -/
theorem StepTemplate.exists_binding {env : Environment} {axes : List Axis} {t : StepTemplate}
    {steps : List Step} (h : expandTemplate env axes t = .ok steps) {step : Step}
    (hstep : step ∈ steps) :
    ∃ b, t.Instantiated env b step ∧ ∀ name, name ∈ b.map Prod.fst ↔ name ∈ t.referencedAxes := by
  obtain ⟨hknown, -, hmade⟩ := expandTemplate_take h
  obtain ⟨b, hb, hinstance⟩ := exists_of_mem_forall₂ hmade hstep
  refine ⟨b, hinstance, fun name => ?_⟩
  rw [t.names_of_mem_bindingsOf (List.mem_of_mem_take hb), t.mem_names_axesOf_iff hknown]

/-- **A template is enumerated over what its steps depend on.**  When no line has seams, the axes
that a template refers to are those named in its label, its directories, its log files and the words
of its lines.  Each of its steps is made of a combination that has a value for every placeholder
there is in what is filled in, and for no axis that is named neither there nor in a directory that
all commands replace by their own. -/
theorem StepTemplate.references_exact {t : StepTemplate} (h : ∀ c ∈ t.commands, c.Seamless) :
    (∀ name, name ∈ t.referencedAxes ↔ ∃ text ∈ t.cutTexts, name ∈ Piece.names text) ∧
      ∀ env axes steps, expandTemplate env axes t = .ok steps → ∀ step ∈ steps,
        ∃ b, t.Instantiated env b step ∧
          (∀ text ∈ t.label :: t.fillings, b.Covers text) ∧
          ∀ name ∈ b.map Prod.fst,
            (∃ text ∈ t.label :: t.fillings, name ∈ Piece.names text) ∨
              ∃ dir, t.dir = some dir ∧ (∀ c ∈ t.commands, c.dir.isSome) ∧
                name ∈ Piece.names dir := by
  refine ⟨fun name => t.mem_referencedAxes_iff h, fun env axes steps hsteps step hstep => ?_⟩
  obtain ⟨b, hinstance, hnames⟩ := t.exists_binding hsteps hstep
  simp only [t.mem_referencedAxes_iff h] at hnames
  refine ⟨b, hinstance, fun text htext name hname => ?_, fun name hname => ?_⟩
  · have hpart : text ∈ t.cutTexts := by
      obtain rfl | htext := List.mem_cons.1 htext
      · exact List.mem_cons_self
      · obtain hpart | rfl := t.mem_cutTexts_of_mem_fillings htext
        · exact hpart
        · have hdot : Piece.names "." = [] := by decide +kernel
          rw [hdot] at hname
          cases hname
    obtain ⟨entry, hentry, rfl⟩ := List.mem_map.1 ((hnames name).2 ⟨text, hpart, hname⟩)
    exact List.lookup_isSome_iff.2 ⟨entry, hentry, beq_self_eq_true _⟩
  · obtain ⟨text, hpart, hname⟩ := (hnames name).1 hname
    obtain htext | ⟨hdir, hown⟩ := t.mem_fillings_of_mem_cutTexts hpart
    · exact .inl ⟨text, htext, hname⟩
    · exact .inr ⟨text, hdir, hown, hname⟩

namespace Sample

/-- A placeholder within quotes, next to a variable, and a comment without one. -/
def quoted : StepTemplate :=
  ⟨"show {os}", none, [⟨"sh -c 'env {os} $PATH' # {any os}", none, none⟩]⟩

/-- The step for one value. -/
def quotedStep (os : String) : Step :=
  ⟨"show " ++ os, "", [⟨"sh", ["-c", "env " ++ os ++ " $PATH"], .ofText ".", none⟩]⟩

/-- The step for the second value has a value for the placeholder within the quotes. -/
theorem references_quoted :
    (∀ c ∈ quoted.commands, c.Seamless) ∧
      expandTemplate ⟨.empty, ⟨[], none⟩⟩ systems quoted =
        .ok [quotedStep "linux", quotedStep "mac"] ∧
      ∃ b, quoted.Instantiated ⟨.empty, ⟨[], none⟩⟩ b (quotedStep "mac") ∧
        ∀ text ∈ quoted.label :: quoted.fillings, b.Covers text := by
  have hseamless : ∀ c ∈ quoted.commands, c.Seamless := by decide +kernel
  have hsteps : expandTemplate ⟨.empty, ⟨[], none⟩⟩ systems quoted =
      .ok [quotedStep "linux", quotedStep "mac"] := eq_ok_of_toOption (by decide +kernel)
  obtain ⟨b, hmade, hbound, -⟩ := (StepTemplate.references_exact hseamless).2 _ _ _ hsteps
    (quotedStep "mac") (List.mem_cons_of_mem _ List.mem_cons_self)
  exact ⟨hseamless, hsteps, b, hmade, hbound⟩

/-- An axis of one value. -/
def oneSystem : List Axis :=
  [⟨"os", ["mac"], by decide⟩]

/-- Quotes within the braces of a placeholder. -/
def joined : StepTemplate :=
  ⟨"show", none, [⟨"echo \x7bo's'\x7d", none, none⟩]⟩

/-- A placeholder in a comment. -/
def remarked : StepTemplate :=
  ⟨"make", none, [⟨"make # {os}", none, none⟩]⟩

/-- The first template refers to no axis, and the placeholder in its second word is left as it is.
The second one refers to an axis that nothing depends on, and has the same step for each value. -/
theorem references_with_seams :
    Words.split "echo \x7bo's'\x7d" = some ["echo", "{os}"] ∧
      joined.referencedAxes = [] ∧
      (∃ text ∈ joined.cutTexts, "os" ∈ Piece.names text) ∧
      expand ⟨.empty, ⟨[], none⟩⟩ oneSystem [joined] =
        .ok [⟨"show", "", [⟨"echo", ["{os}"], .ofText ".", none⟩]⟩] ∧
      Words.split "make # {os}" = some ["make"] ∧
      remarked.referencedAxes = ["os"] ∧
      (∀ text ∈ remarked.cutTexts, Piece.names text = []) ∧
      expand ⟨.empty, ⟨[], none⟩⟩ systems [remarked] =
        .error (.config (.duplicateStep "make")) := by
  refine ⟨by decide +kernel, by decide +kernel, by decide +kernel,
    eq_ok_of_toOption (by decide +kernel), by decide +kernel, by decide +kernel,
    by decide +kernel, eq_error_of_refusal? (by decide +kernel)⟩

end Sample

end CheckMatrix
