/-
The order of the axes only orders.

A template looks at the axes that it refers to and at nothing else of a list of axes, so lists that
agree on these give it the same steps (`expandFrom_congr`).  Lists that have them in different orders
give it the same combinations in different orders, each of them with its values in another order
(`exists_bindingsOver_perm`).  A binding is only ever asked for the value under a name, and its
names are different, so the order within a combination does not show in a step.  What is left is the
order of the steps: the blocks of a template are permutations of each other, and whether some names
come twice does not depend on it (`expand_rearranged`).
-/
import CheckMatrix.Proofs.Plan.Blocks
import CheckMatrix.Proofs.Plan.Restriction
import Mathlib.Data.List.Nodup

namespace CheckMatrix

/-! ### Combinations -/

/-- Two nested passes over lists can be exchanged. -/
theorem flatMap_comm_perm {α β γ : Type} (f : α → β → List γ) (xs : List α) (ys : List β) :
    (xs.flatMap fun x => ys.flatMap (f x)).Perm (ys.flatMap fun y => xs.flatMap (f · y)) := by
  induction xs with
  | nil => simp
  | cons x rest ih =>
      rw [List.flatMap_cons]
      exact (ih.append_left _).trans (List.flatMap_append_perm ys (f x) _)

/-- **Lists in another order have the same combinations**, up to the order of the combinations and
the order within each of them. -/
theorem exists_bindingsOver_perm {lists lists' : List (String × List String)}
    (h : lists.Perm lists') :
    ∃ bs, List.Forall₂ List.Perm (bindingsOver lists) bs ∧ bs.Perm (bindingsOver lists') := by
  induction h with
  | nil => exact ⟨[[]], .cons .nil .nil, .refl _⟩
  | @cons entry rest rest' _ ih =>
      obtain ⟨bs, hwithin, hperm⟩ := ih
      obtain ⟨name, values⟩ := entry
      refine ⟨values.flatMap fun value => bs.map ((name, value) :: ·), ?_, ?_⟩
      · refine List.rel_flatMap (List.forall₂_eq_eq_eq ▸ rfl) ?_
        rintro value _ rfl
        refine List.forall₂_map_left_iff.2 (List.forall₂_map_right_iff.2 (hwithin.imp ?_))
        exact fun b b' hb => hb.cons _
      · exact List.Perm.flatMap_left values fun value _ => hperm.map _
  | swap first second rest =>
      obtain ⟨name, values⟩ := first
      obtain ⟨other, others⟩ := second
      -- each combination has the two values exchanged, and then the two passes are
      refine ⟨others.flatMap fun value' => values.flatMap fun value =>
        (bindingsOver rest).map fun b => (name, value) :: (other, value') :: b, ?_, ?_⟩
      · simp only [bindingsOver, List.map_flatMap, List.map_map]
        refine List.rel_flatMap (List.forall₂_eq_eq_eq ▸ rfl) ?_
        rintro value' _ rfl
        refine List.rel_flatMap (List.forall₂_eq_eq_eq ▸ rfl) ?_
        rintro value _ rfl
        refine List.forall₂_map_left_iff.2 (List.forall₂_map_right_iff.2 ?_)
        exact List.forall₂_same.2 fun b _ => .swap ..
      · simp only [bindingsOver, List.map_flatMap, List.map_map]
        exact flatMap_comm_perm _ others values
  | trans _ _ ih ih' =>
      obtain ⟨bs, hwithin, hperm⟩ := ih
      obtain ⟨cs, hwithin', hperm'⟩ := ih'
      obtain ⟨ds, hds, hcs⟩ := List.perm_comp_forall₂ hperm hwithin'
      exact ⟨ds, forall₂_trans (fun _ _ _ h h' => h.trans h') hwithin hds, hcs.trans hperm'⟩

/-! ### Bindings -/

/-- In a binding with different names a name has the value that stands with it. -/
theorem Binding.lookup_eq_some_iff {b : Binding} (h : (b.map Prod.fst).Nodup)
    {name value : String} : b.lookup name = some value ↔ (name, value) ∈ b := by
  rw [List.lookup_eq_some_iff]
  constructor
  · rintro ⟨before, after, rfl, -⟩
    simp
  · intro hmem
    obtain ⟨before, after, rfl⟩ := List.append_of_mem hmem
    rw [List.map_append, List.map_cons] at h
    refine ⟨before, after, rfl, fun e he => ?_⟩
    have hapart := (List.nodup_append.1 h).2.2 e.1 (List.mem_map_of_mem he) name List.mem_cons_self
    simpa using hapart.symm

/-- The order of a binding does not show when it is asked for a value, -/
theorem Binding.lookup_eq_of_perm {b b' : Binding} (hperm : b.Perm b')
    (hnames : (b.map Prod.fst).Nodup) (name : String) : b.lookup name = b'.lookup name := by
  have hnames' : (b'.map Prod.fst).Nodup := (hperm.map Prod.fst).nodup_iff.1 hnames
  refine Option.ext fun value => ?_
  rw [Binding.lookup_eq_some_iff hnames, Binding.lookup_eq_some_iff hnames', hperm.mem_iff]

/-- when a text is filled in, -/
theorem interpolate_congr {b b' : Binding} (h : ∀ name, b.lookup name = b'.lookup name)
    (text : String) : interpolate text b = interpolate text b' := by
  have hfill : Piece.fill b = Piece.fill b' := by
    funext piece
    cases piece with
    | plain c => rfl
    | axis name => simp only [Piece.fill, h name]
  rw [interpolate, interpolate, hfill]

/-- and in a step. -/
theorem StepTemplate.instantiate_congr {env : Environment} {t : StepTemplate} {b b' : Binding}
    (h : ∀ name, b.lookup name = b'.lookup name) (commands : List SplitCommand) :
    t.instantiate env commands b = t.instantiate env commands b' := by
  have hword : expandWord env t b = expandWord env t b' := by
    funext word
    simp only [expandWord, interpolate_congr h]
  have hcommand : SplitCommand.instantiate env t b = SplitCommand.instantiate env t b' := by
    funext c
    simp only [SplitCommand.instantiate, hword]
  simp only [StepTemplate.instantiate, hcommand, interpolate_congr h]

/-! ### One template -/

section Template

variable {env : Environment} {axes axes' : List Axis} {t : StepTemplate}

theorem combinations_perm (h : axes.Perm axes') : combinations axes = combinations axes' := by
  rw [combinations_eq_prod, combinations_eq_prod]
  exact ((h.map _).map _).prod_eq

/-- What is done to a list that is rearranged has its results rearranged. -/
theorem mapM_perm {ε α β : Type} {f : α → Except ε β} {xs ys : List α} {zs : List β}
    (hperm : xs.Perm ys) (h : xs.mapM f = .ok zs) : ∃ ws, ys.mapM f = .ok ws ∧ zs.Perm ws := by
  obtain ⟨ws, hws, hzs⟩ := List.perm_comp_forall₂ hperm.symm (mapM_eq_ok_iff.1 h)
  exact ⟨ws, mapM_eq_ok_iff.2 hws, hzs.symm⟩

/-- Axes that a template refers to are the same in another order. -/
theorem StepTemplate.settled_of_perm (hperm : (t.axesOf axes).Perm (t.axesOf axes')) :
    ((∀ name ∈ t.referencedAxes, Known axes name) → ∀ name ∈ t.referencedAxes, Known axes' name) ∧
      (Filled (t.axesOf axes) → Filled (t.axesOf axes')) := by
  constructor
  · intro hknown name hname
    obtain ⟨axis, haxis, heq⟩ := (t.known_iff hname).1 (hknown name hname)
    exact (t.known_iff hname).2 ⟨axis, hperm.mem_iff.1 haxis, heq⟩
  · exact fun hfilled axis haxis => hfilled axis (hperm.mem_iff.2 haxis)

/-- **The steps of a template are rearranged with its axes.** -/
theorem expandTemplate_perm (hnames : ((t.axesOf axes).map Axis.name).Nodup)
    (hcount : combinations (t.axesOf axes) < 2 ^ 64)
    (hperm : (t.axesOf axes).Perm (t.axesOf axes')) {block : List Step}
    (h : expandTemplate env axes t = .ok block) :
    ∃ block', expandTemplate env axes' t = .ok block' ∧ block.Perm block' := by
  obtain ⟨hcuts, hknown, hfilled, hroom, hsteps⟩ := expandTemplate_eq_ok_iff.1 h
  obtain ⟨bs, hwithin, hbs⟩ := exists_bindingsOver_perm (hperm.map Axis.entry)
  have hcount' : combinations (t.axesOf axes') < 2 ^ 64 := combinations_perm hperm ▸ hcount
  -- a combination with its values in another order makes the same step
  have hsame : bs.mapM (t.instantiate env (t.commands.map t.cutCommand)) = .ok block := by
    have hdistinct : ∀ b ∈ t.bindingsOf axes, (b.map Prod.fst).Nodup :=
      fun b hb => t.names_of_mem_bindingsOf hb ▸ hnames
    rw [t.countedBindings_eq hcount, mapM_eq_ok_iff] at hsteps
    have hall := ((List.forall₂_and_left _ _).2 ⟨hdistinct, hwithin⟩).flip
    refine mapM_eq_ok_iff.2 (forall₂_trans ?_ hall hsteps)
    rintro b' b step ⟨hb, hordered⟩ hstep
    rw [← hstep]
    exact t.instantiate_congr (fun name => (Binding.lookup_eq_of_perm hordered hb name).symm) _
  obtain ⟨block', hblock', hblocks⟩ := mapM_perm hbs hsame
  refine ⟨block', expandTemplate_eq_ok_iff.2 ⟨hcuts, ?_, ?_, ?_, ?_⟩, hblocks⟩
  · exact (t.settled_of_perm hperm).1 hknown
  · exact (t.settled_of_perm hperm).2 hfilled
  · rw [countedCombinations, ← combinations_perm hperm]
    exact hroom
  · rw [t.countedBindings_eq hcount']
    exact hblock'

end Template

/-! ### Lists of templates -/

/-- The axes that some of the templates refer to. -/
def referredAxes (axes : List Axis) (templates : List StepTemplate) : List Axis :=
  axes.filter fun axis => axis.name ∈ templates.flatMap StepTemplate.referencedAxes

/-- Each template finds its axes among these. -/
theorem StepTemplate.axesOf_referredAxes {templates : List StepTemplate} {t : StepTemplate}
    (ht : t ∈ templates) (axes : List Axis) :
    t.axesOf (referredAxes axes templates) = t.axesOf axes :=
  t.axesOf_filter (fun _ hname => List.mem_flatMap.2 ⟨t, ht, hname⟩) axes

/-- What stands beside a list is exchanged for something else, one by one. -/
theorem exists_forall₂_of {α β γ : Type} {P : α → β → Prop} {Q : α → γ → Prop} {R : β → γ → Prop}
    {xs : List α} {ys : List β} (h : List.Forall₂ P xs ys)
    (hstep : ∀ x ∈ xs, ∀ y, P x y → ∃ z, Q x z ∧ R y z) :
    ∃ zs, List.Forall₂ Q xs zs ∧ List.Forall₂ R ys zs := by
  induction h with
  | nil => exact ⟨[], .nil, .nil⟩
  | @cons x y xs ys hxy _ ih =>
      obtain ⟨hx, hrest⟩ := List.forall_mem_cons.1 hstep
      obtain ⟨z, hQ, hR⟩ := hx y hxy
      obtain ⟨zs, hQs, hRs⟩ := ih hrest
      exact ⟨z :: zs, .cons hQ hQs, .cons hR hRs⟩

/-- Axes with different names are in order if their names are. -/
theorem eq_of_map_name {axes axes' : List Axis} (hnames : (axes.map Axis.name).Nodup)
    (hperm : axes.Perm axes') (h : axes.map Axis.name = axes'.map Axis.name) : axes = axes' := by
  refine List.ext_getElem hperm.length_eq fun i hi hi' => ?_
  have hname := List.getElem_of_eq h (i := i) (by simpa using hi)
  rw [List.getElem_map, List.getElem_map] at hname
  exact List.inj_on_of_nodup_map hnames (List.getElem_mem hi)
    (hperm.mem_iff.2 (List.getElem_mem hi')) hname

section Lists

variable {env : Environment} {axes axes' : List Axis} {templates : List StepTemplate}

/-- Templates whose blocks can be rearranged are expanded to the rearranged blocks. -/
theorem expand_perm
    (h : ∀ t ∈ templates, ∀ block, expandTemplate env axes t = .ok block →
      ∃ block', expandTemplate env axes' t = .ok block' ∧ block.Perm block')
    {steps : List Step} (hsteps : expand env axes templates = .ok steps) :
    ∃ blocks blocks',
      List.Forall₂ (fun t block => expandTemplate env axes t = .ok block) templates blocks ∧
      List.Forall₂ (fun t block => expandTemplate env axes' t = .ok block) templates blocks' ∧
      List.Forall₂ List.Perm blocks blocks' ∧ steps = blocks.flatten ∧
      expand env axes' templates = .ok blocks'.flatten := by
  obtain ⟨blocks, hblocks, rfl, hnodup⟩ := expand_eq_ok_iff.1 hsteps
  obtain ⟨blocks', hblocks', hperm⟩ := exists_forall₂_of hblocks h
  refine ⟨blocks, blocks', hblocks, hblocks', hperm, rfl, expand_eq_ok_iff.2 ?_⟩
  have hall : (blocks.flatten.map Step.name).Perm (blocks'.flatten.map Step.name) :=
    (List.Perm.flatten_congr hperm).map Step.name
  exact ⟨blocks', hblocks', rfl, hall.nodup_iff.1 hnodup⟩

theorem StepTemplate.axesOf_perm {t : StepTemplate} (ht : t ∈ templates)
    (hperm : (referredAxes axes templates).Perm (referredAxes axes' templates)) :
    (t.axesOf axes).Perm (t.axesOf axes') := by
  rw [← t.axesOf_referredAxes ht axes, ← t.axesOf_referredAxes ht axes']
  exact hperm.filter _

theorem StepTemplate.nodup_names_axesOf {t : StepTemplate} (ht : t ∈ templates)
    (hnames : ((referredAxes axes templates).map Axis.name).Nodup) :
    ((t.axesOf axes).map Axis.name).Nodup := by
  rw [← t.axesOf_referredAxes ht]
  exact (List.filter_sublist.map Axis.name).nodup hnames

end Lists

/-- **The order of the axes only orders.**  Let two lists of axes have the same axes of those that
the templates refer to, with different names, in any order and among any others.  The templates are
expanded over both lists or over neither, and if they are, template by template the steps of the one
are those of the other in some order.  If every template finds its axes in the same order, the
results are the same. -/
theorem expand_rearranged {env : Environment} {axes axes' : List Axis}
    {templates : List StepTemplate}
    (hnames : ((referredAxes axes templates).map Axis.name).Nodup)
    (hperm : (referredAxes axes templates).Perm (referredAxes axes' templates))
    (hcount : ∀ t ∈ templates, combinations (t.axesOf axes) < 2 ^ 64) :
    ((∃ steps, expand env axes templates = .ok steps) ↔
      ∃ steps, expand env axes' templates = .ok steps) ∧
    (∀ steps steps', expand env axes templates = .ok steps →
      expand env axes' templates = .ok steps' →
        ∃ blocks blocks', steps = blocks.flatten ∧ steps' = blocks'.flatten ∧
          List.Forall₂ (fun t block => expandTemplate env axes t = .ok block) templates blocks ∧
          List.Forall₂ (fun t block => expandTemplate env axes' t = .ok block) templates blocks' ∧
          List.Forall₂ List.Perm blocks blocks') ∧
    ((∀ t ∈ templates, (t.axesOf axes).map Axis.name = (t.axesOf axes').map Axis.name) →
      expand env axes templates = expand env axes' templates) := by
  have hforth : ∀ t ∈ templates, ∀ block, expandTemplate env axes t = .ok block →
      ∃ block', expandTemplate env axes' t = .ok block' ∧ block.Perm block' := by
    intro t ht block
    exact expandTemplate_perm (t.nodup_names_axesOf ht hnames) (hcount t ht)
      (t.axesOf_perm ht hperm)
  have hback : ∀ t ∈ templates, ∀ block, expandTemplate env axes' t = .ok block →
      ∃ block', expandTemplate env axes t = .ok block' ∧ block.Perm block' := by
    have hnames' := (hperm.map Axis.name).nodup_iff.1 hnames
    intro t ht block
    have hused := t.axesOf_perm ht hperm
    exact expandTemplate_perm (t.nodup_names_axesOf ht hnames')
      (combinations_perm hused ▸ hcount t ht) hused.symm
  refine ⟨⟨?_, ?_⟩, fun steps steps' h h' => ?_, fun horder => expandFrom_congr (fun t ht => ?_) []⟩
  · rintro ⟨steps, h⟩
    obtain ⟨-, blocks', -, -, -, -, h'⟩ := expand_perm hforth h
    exact ⟨_, h'⟩
  · rintro ⟨steps, h⟩
    obtain ⟨-, blocks, -, -, -, -, h'⟩ := expand_perm hback h
    exact ⟨_, h'⟩
  · obtain ⟨blocks, blocks', hblocks, hblocks', hordered, hsteps, hflat⟩ := expand_perm hforth h
    rw [h'] at hflat
    exact ⟨blocks, blocks', hsteps, Except.ok.inj hflat, hblocks, hblocks', hordered⟩
  · exact eq_of_map_name (t.nodup_names_axesOf ht hnames) (t.axesOf_perm ht hperm) (horder t ht)

namespace Sample

/-- The axes of `smallAxes` in the other order, with another axis in front. -/
def turnedAxes : List Axis :=
  ⟨"other", ["x"], by decide⟩ :: smallAxes.reverse

/-- A template that refers to one of the axes, and one that refers to both. -/
def turnedTemplates : List StepTemplate :=
  [⟨"check {mode}", none, [⟨"check", none, none⟩]⟩, smallTemplate]

/-- The steps of the first template. -/
def checkSteps : List Step :=
  ["debug", "release", "bench"].map fun mode =>
    ⟨"check " ++ mode, "", [⟨"check", [], .ofText ".", none⟩]⟩

/-- A step of the second template. -/
def smallStep (mode target : String) : Step :=
  ⟨mode ++ " for " ++ target, "", [⟨"make", [mode], .ofText ".", none⟩]⟩

/-- The steps of the second template as `smallAxes` order them, -/
def slowTarget : List Step :=
  ["gnu", "musl"].flatMap fun target => ["debug", "release", "bench"].map (smallStep · target)

/-- and as `turnedAxes` do. -/
def slowMode : List Step :=
  ["debug", "release", "bench"].flatMap fun mode => ["gnu", "musl"].map (smallStep mode)

/-- Three steps come in the same order, and six others in another one. -/
theorem expand_rearranged_small :
    ((referredAxes smallAxes turnedTemplates).map Axis.name).Nodup ∧
      (referredAxes smallAxes turnedTemplates).Perm (referredAxes turnedAxes turnedTemplates) ∧
      (∀ t ∈ turnedTemplates, combinations (t.axesOf smallAxes) < 2 ^ 64) ∧
      expand ⟨.empty, ⟨[], none⟩⟩ smallAxes turnedTemplates = .ok (checkSteps ++ slowTarget) ∧
      expand ⟨.empty, ⟨[], none⟩⟩ turnedAxes turnedTemplates = .ok (checkSteps ++ slowMode) ∧
      ∃ blocks blocks', checkSteps ++ slowTarget = blocks.flatten ∧
        checkSteps ++ slowMode = blocks'.flatten ∧ List.Forall₂ List.Perm blocks blocks' := by
  have hnames : ((referredAxes smallAxes turnedTemplates).map Axis.name).Nodup := by decide +kernel
  have hperm : (referredAxes smallAxes turnedTemplates).Perm
      (referredAxes turnedAxes turnedTemplates) := by decide +kernel
  have hcount : ∀ t ∈ turnedTemplates, combinations (t.axesOf smallAxes) < 2 ^ 64 := by
    decide +kernel
  have hsteps : expand ⟨.empty, ⟨[], none⟩⟩ smallAxes turnedTemplates =
      .ok (checkSteps ++ slowTarget) := eq_ok_of_toOption (by decide +kernel)
  have hsteps' : expand ⟨.empty, ⟨[], none⟩⟩ turnedAxes turnedTemplates =
      .ok (checkSteps ++ slowMode) := eq_ok_of_toOption (by decide +kernel)
  obtain ⟨blocks, blocks', hblocks, hblocks', -, -, hordered⟩ :=
    (expand_rearranged hnames hperm hcount).2.1 _ _ hsteps hsteps'
  exact ⟨hnames, hperm, hcount, hsteps, hsteps', blocks, blocks', hblocks, hblocks', hordered⟩

end Sample

end CheckMatrix
