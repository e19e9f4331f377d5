/-
A label that shows the values of one axis names the steps of a template apart.

Filling in a text gives back the value of a placeholder that stands in it, wherever and however often
it stands there (`interpolate_injective`).  Of two values one is not longer than the other, so no piece
of the text is longer with the one than with the other.  If the texts are the same all the same, every
piece has the same length in both, and then the pieces are the same one by one.

The values of an axis are different, so the names of the steps over one axis are (`expand_named_apart`).
With two axes what is left out of the one value can be made up for by the other.
-/
import CheckMatrix.Proofs.Plan.Blocks
import CheckMatrix.Proofs.Text.Scanning
import Mathlib.Data.List.Nodup

namespace CheckMatrix

/-! ### Pieces one by one -/

section Pieces

variable {α β : Type} {f g : α → List β} {xs : List α}

theorem length_flatMap_le (h : ∀ x ∈ xs, (f x).length ≤ (g x).length) :
    (xs.flatMap f).length ≤ (xs.flatMap g).length := by
  induction xs with
  | nil => simp
  | cons x rest ih =>
      have hx := h x List.mem_cons_self
      have hrest := ih fun y hy => h y (List.mem_cons_of_mem x hy)
      simp only [List.flatMap_cons, List.length_append]
      omega

/-- If no part is longer on one side, lists that are the same are the same part by part. -/
theorem eq_of_flatMap_eq (h : ∀ x ∈ xs, (f x).length ≤ (g x).length)
    (heq : xs.flatMap f = xs.flatMap g) : ∀ x ∈ xs, f x = g x := by
  induction xs with
  | nil => simp
  | cons x rest ih =>
      have hx := h x List.mem_cons_self
      have htail : ∀ y ∈ rest, (f y).length ≤ (g y).length :=
        fun y hy => h y (List.mem_cons_of_mem x hy)
      have hrest := length_flatMap_le htail
      rw [List.flatMap_cons, List.flatMap_cons] at heq
      have hlength : (f x).length = (g x).length := by
        have hall := congrArg List.length heq
        rw [List.length_append, List.length_append] at hall
        omega
      obtain ⟨hhead, hbehind⟩ := List.append_inj heq hlength
      exact List.forall_mem_cons.2 ⟨hhead, ih htail hbehind⟩

end Pieces

/-! ### Values of one placeholder -/

/-- A placeholder is filled in with the value that is given for it, -/
theorem Piece.fill_same (name value : String) :
    (Piece.axis name).fill [(name, value)] = value.toList := by
  rw [Piece.fill, List.lookup_cons_self]

/-- and any other one is left as it is. -/
theorem Piece.fill_other {name other : String} (h : other ≠ name) (value : String) :
    (Piece.axis other).fill [(name, value)] = Piece.render (.axis other) := by
  have hnone : List.lookup other [(name, value)] = none := by
    rw [List.lookup_cons, beq_false_of_ne h, List.lookup_nil]
  rw [Piece.fill, hnone]

/-- A longer value makes no piece shorter. -/
theorem Piece.length_fill_le {name v w : String} (h : v.toList.length ≤ w.toList.length)
    (piece : Piece) :
    (piece.fill [(name, v)]).length ≤ (piece.fill [(name, w)]).length := by
  cases piece with
  | plain c => exact le_rfl
  | axis other =>
      by_cases hname : other = name
      · rw [hname, Piece.fill_same, Piece.fill_same]
        exact h
      · rw [Piece.fill_other hname, Piece.fill_other hname]

theorem interpolate_inj_of_le {text name v w : String} (hmem : .axis name ∈ Piece.scan text)
    (h : interpolate text [(name, v)] = interpolate text [(name, w)])
    (hle : v.toList.length ≤ w.toList.length) : v = w := by
  have hpieces := eq_of_flatMap_eq (fun piece _ => Piece.length_fill_le hle piece)
    (String.ofList_inj.1 h)
  have hvalue := hpieces _ hmem
  rw [Piece.fill_same, Piece.fill_same] at hvalue
  exact String.toList_inj.1 hvalue

/-- **A text with a placeholder in it shows which value was filled in.** -/
theorem interpolate_injective {text name : String} (hmem : .axis name ∈ Piece.scan text) :
    Function.Injective fun value => interpolate text [(name, value)] := by
  intro v w h
  rcases Nat.le_total v.toList.length w.toList.length with hle | hle
  · exact interpolate_inj_of_le hmem h hle
  · exact (interpolate_inj_of_le hmem h.symm hle).symm

/-! ### Templates over one axis -/

section Template

variable {env : Environment} {axes : List Axis} {axis : Axis} {t : StepTemplate}

/-- The names of the steps are the label under the combinations that are counted. -/
theorem names_of_expandTemplate {steps : List Step} (h : expandTemplate env axes t = .ok steps) :
    steps.map Step.name = (t.countedBindings axes).map (interpolate t.label) := by
  obtain ⟨-, -, -, -, hsteps⟩ := expandTemplate_eq_ok_iff.1 h
  refine map_eq_of_forall₂ (fun b step hstep => ?_) (mapM_eq_ok_iff.1 hsteps)
  obtain ⟨commands, -, hstep⟩ := bind_eq_ok_iff.1 hstep
  cases hstep
  rfl

/-- Over one axis the combinations are its values. -/
theorem StepTemplate.bindingsOf_one (hone : t.axesOf axes = [axis]) :
    t.bindingsOf axes = axis.values.map fun value => [(axis.name, value)] := by
  rw [StepTemplate.bindingsOf, hone]
  exact List.map_eq_flatMap.symm

/-- A template by itself is never refused for a name. -/
theorem expandTemplate_ne_duplicateStep (name : String) :
    expandTemplate env axes t ≠ .error (.config (.duplicateStep name)) := by
  intro h
  obtain hlines | haxes | he | ⟨b, -, text, -, hword⟩ := expandTemplate_eq_error h
  · obtain ⟨c, -, he⟩ | ⟨-, he⟩ :=
      StepTemplate.splitCommands_eq_error_iff.1 (checked_eq_config_iff.1 hlines) <;> cases he
  · obtain ⟨other, -, he⟩ | ⟨-, other, -, he⟩ :=
      StepTemplate.usedAxes_eq_error_iff.1 (checked_eq_config_iff.1 haxes) <;> cases he
  · cases he
  · obtain ⟨u, -, he⟩ := expandWord_eq_error_iff.1 (checked_eq_config_iff.1 hword)
    cases he

/-- One template with different names is expanded as it is by itself. -/
theorem expand_singleton
    (h : ∀ steps, expandTemplate env axes t = .ok steps → (steps.map Step.name).Nodup) :
    expand env axes [t] = expandTemplate env axes t := by
  unfold expand expandFrom
  cases hsteps : expandTemplate env axes t with
  | error e => rfl
  | ok steps =>
      have hfree : takeNames [] steps = .ok ([] ++ steps.map Step.name) :=
        takeNames_eq_ok_iff_nodup.2 ⟨⟨h steps hsteps, fun _ _ => List.not_mem_nil⟩, rfl⟩
      rw [ok_bind, hfree, checked_ok, ok_bind]
      exact congrArg Except.ok (List.append_nil steps)

end Template

/-- **A label with a placeholder for the one axis of a template names its steps apart.**  So the
template alone is expanded whatever its names are, and never refused for a name that comes twice. -/
theorem expand_named_apart {axes : List Axis} {axis : Axis} {t : StepTemplate}
    {before after : List Char} (hone : t.axesOf axes = [axis])
    (hlabel : Piece.Stands t.label.toList before axis.name after) (env : Environment) :
    (∀ steps, expandTemplate env axes t = .ok steps → (steps.map Step.name).Nodup) ∧
      expand env axes [t] = expandTemplate env axes t ∧
      ∀ name, expand env axes [t] ≠ .error (.config (.duplicateStep name)) := by
  have hmem : .axis axis.name ∈ Piece.scan t.label := by
    rw [hlabel.scan]
    simp
  have hnames : ∀ steps, expandTemplate env axes t = .ok steps → (steps.map Step.name).Nodup := by
    intro steps h
    rw [names_of_expandTemplate h, StepTemplate.countedBindings, StepTemplate.bindingsOf_one hone,
      List.map_take, List.map_map]
    have hall : (axis.values.map fun value => interpolate t.label [(axis.name, value)]).Nodup :=
      List.Nodup.map (interpolate_injective hmem) axis.distinct
    exact hall.sublist (List.take_sublist _ _)
  have hsame := expand_singleton hnames
  refine ⟨hnames, hsame, fun name h => ?_⟩
  rw [hsame] at h
  exact expandTemplate_ne_duplicateStep name h

/-- With two axes labels may come twice. -/
example : refusal? (expand ⟨.empty, ⟨[], none⟩⟩
    [⟨"a", ["x", "xx"], by decide⟩, ⟨"b", ["x", "xx"], by decide⟩]
    [⟨"\x7ba\x7d\x7bb\x7d", none, [⟨"make", none, none⟩]⟩]) =
      some (.config (.duplicateStep "xxx")) := by decide +kernel

namespace Sample

/-- An axis with values that begin with one another, one of them empty. -/
def suffixes : Axis :=
  ⟨"suffix", ["", "a", "ab", "aba"], by decide⟩

/-- A label that shows the value twice, with text around that could be part of it. -/
def suffixTemplate : StepTemplate :=
  ⟨"ab\x7bsuffix\x7da\x7bsuffix\x7d", none, [⟨"make", none, none⟩]⟩

/-- The steps of the template. -/
def suffixSteps : List Step :=
  ["aba", "abaaa", "ababaab", "ababaaaba"].map fun name =>
    ⟨name, "", [⟨"make", [], .ofText ".", none⟩]⟩

/-- Four steps, all with names of their own. -/
theorem expand_named_apart_suffixes :
    suffixTemplate.axesOf [suffixes] = [suffixes] ∧
      Piece.Stands suffixTemplate.label.toList ['a', 'b'] suffixes.name "a\x7bsuffix\x7d".toList ∧
      expand ⟨.empty, ⟨[], none⟩⟩ [suffixes] [suffixTemplate] = .ok suffixSteps ∧
      (suffixSteps.map Step.name).Nodup := by
  have hone : suffixTemplate.axesOf [suffixes] = [suffixes] := by decide +kernel
  have hname : Piece.IsName suffixes.name.toList := ⟨by decide, by simp [suffixes, Piece.isNameChar]⟩
  have hstands : Piece.Stands suffixTemplate.label.toList ['a', 'b'] suffixes.name
      "a\x7bsuffix\x7d".toList := by
    refine ⟨by decide +kernel, hname, ?_⟩
    rintro _ ⟨⟩
    rfl
  have hsteps : expandTemplate ⟨.empty, ⟨[], none⟩⟩ [suffixes] suffixTemplate =
      .ok suffixSteps := eq_ok_of_toOption (by decide +kernel)
  obtain ⟨hnames, hsame, -⟩ := expand_named_apart hone hstands ⟨.empty, ⟨[], none⟩⟩
  exact ⟨hone, hstands, hsame.trans hsteps, hnames _ hsteps⟩

end Sample

end CheckMatrix
