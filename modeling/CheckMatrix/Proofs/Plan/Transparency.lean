/-
Plain text comes through.

A text without blanks, quotes, backslashes, hash signs, dollar signs, tildes and opening braces has
nothing in it that any stage of planning looks for.  It is not changed by marking, is one word where
it stands by itself, has no placeholder and no variable, and never gets a template refused
(`expand_transparent`).

One stage looks at it all the same.  At the end the characters of the stand-ins are put back in
every word, directory and log file, whether the marker has put them in or not.  So a plain text
comes out as it is exactly when it has none of these characters (`unmark_eq_self_iff`), and any of
them is changed to a sign (`Sample.expand_changes_plain`).
-/
import CheckMatrix.Proofs.Plan.Blocks
import CheckMatrix.Proofs.Plan.Displayed
import CheckMatrix.Proofs.Plan.Insertion

namespace CheckMatrix

open Marks Words

/-! ### Plain texts -/

/-- A text that means nothing to any stage of planning. -/
structure IsPlain (text : String) : Prop where
  nonempty : text.toList ≠ []
  ordinary : ∀ c ∈ text.toList, isOrdinary c = true
  brace : '{' ∉ text.toList

instance (text : String) : Decidable (IsPlain text) :=
  decidable_of_iff (text.toList ≠ [] ∧ text.toList.all isOrdinary = true ∧ '{' ∉ text.toList) <| by
    rw [List.all_eq_true]
    exact ⟨fun ⟨hnonempty, hordinary, hbrace⟩ => ⟨hnonempty, hordinary, hbrace⟩,
      fun ⟨hnonempty, hordinary, hbrace⟩ => ⟨hnonempty, hordinary, hbrace⟩⟩

theorem restore_eq_self_iff (c : Char) : restore c = c ↔ ¬ IsStandIn c := by
  refine ⟨?_, restore_of_not⟩
  rintro hc (rfl | rfl)
  · exact absurd hc (by decide)
  · exact absurd hc (by decide)

/-- Putting characters back leaves a text as it is exactly when there are none to put back. -/
theorem unmark_eq_self_iff (text : String) : unmark text = text ↔ Unmarked text.toList := by
  constructor
  · intro h c hc
    have hchars : text.toList.map restore = text.toList.map id := by
      rw [List.map_id, ← String.toList_ofList (l := text.toList.map restore)]
      exact congrArg String.toList h
    exact (restore_eq_self_iff c).1 (List.map_eq_map_iff.1 hchars c hc)
  · exact unmark_of_unmarked

section Text

variable {text : String} (h : IsPlain text)

include h

theorem IsPlain.notMem {c : Char} (hc : isOrdinary c = false) : c ∉ text.toList := by
  intro hmem
  rw [h.ordinary c hmem] at hc
  cases hc

theorem IsPlain.interpolate (b : Binding) : interpolate text b = text :=
  (unfilled_of_notMem h.brace).interpolate b

theorem IsPlain.substitute (lookup : String → Option String) :
    Variables.substitute lookup text = .ok text :=
  Variables.substitute_of_notMem (h.notMem (by decide))

/-- **A plain text is filled in with itself**, and then its stand-ins are put back. -/
theorem expandWord_of_plain (env : Environment) (t : StepTemplate) (b : Binding) :
    expandWord env t b text = .ok (unmark text) := by
  have htilde : text.toList.head? ≠ some '~' := fun hhead =>
    h.notMem (c := '~') (by decide) (List.mem_of_head? hhead)
  unfold expandWord expandVariables
  simp only [h.interpolate, h.substitute, if_neg htilde]

end Text

/-! ### Templates without placeholders -/

section Template

variable {env : Environment} {axes : List Axis} {t : StepTemplate}

/-- Plain texts are kept where they are, up to the putting back of characters. -/
def Command.Transparent (t : StepTemplate) (c : CommandTemplate) (made : Command) : Prop :=
  ∀ text, IsPlain text → Command.Carries t c made text (unmark text)

/-- A plain text without the characters of the stand-ins is kept as it is. -/
theorem Command.Transparent.same {c : CommandTemplate} {made : Command}
    (h : Command.Transparent t c made) (text : String) (hplain : IsPlain text)
    (hunmarked : Unmarked text.toList) : Command.Carries t c made text text := by
  have hcarries := h text hplain
  rwa [unmark_of_unmarked hunmarked] at hcarries

theorem StepTemplate.Instantiated.transparent {b : Binding} {step : Step}
    (h : t.Instantiated env b step) :
    List.Forall₂ (Command.Transparent t) t.commands step.commands := by
  refine h.made.2.imp ?_
  rintro c made ⟨split, hsplit, hmade⟩ text hplain
  exact Command.carries hsplit hmade hplain.ordinary hplain.nonempty (expandWord_of_plain hplain ..)

/-- A template without placeholders has one combination, which binds nothing and for which there is
room. -/
theorem StepTemplate.countedBindings_of_unfilled (hunfilled : ∀ text ∈ t.texts, Unfilled text)
    (axes : List Axis) :
    (∀ name ∈ t.referencedAxes, Known axes name) ∧ Filled (t.axesOf axes) ∧
      t.countedBindings axes = [[]] ∧ askRoom (countedCombinations (t.axesOf axes)) = .ok () := by
  obtain ⟨hknown, hfilled, hnone⟩ :=
    StepTemplate.usedAxes_eq_ok_iff.1 (t.usedAxes_of_unfilled hunfilled axes)
  refine ⟨hknown, hfilled, ?_⟩
  rw [StepTemplate.countedBindings, StepTemplate.bindingsOf, ← hnone]
  exact ⟨rfl, rfl⟩

/-- It is expanded to the one step that it makes, -/
theorem expandTemplate_of_unfilled (hunfilled : ∀ text ∈ t.texts, Unfilled text) (hcuts : t.Cuts) :
    expandTemplate env axes t =
      checked ((t.instantiate env (t.commands.map t.cutCommand) []).map ([·])) := by
  obtain ⟨hknown, hfilled, hbindings, hroom⟩ := t.countedBindings_of_unfilled hunfilled axes
  rw [expandTemplate_eq hcuts hknown hfilled, hroom, ok_bind, hbindings, List.mapM_cons,
    List.mapM_nil]
  cases t.instantiate env (t.commands.map t.cutCommand) [] <;> rfl

/-- and makes one unless a text that is not plain misses a variable. -/
theorem StepTemplate.instantiate_nil_eq_ok_iff :
    (∃ step, t.instantiate env (t.commands.map t.cutCommand) [] = .ok step) ↔
      ∀ text ∈ t.fillings, ¬ IsPlain text → env.Defines text := by
  have hdefined : (∃ step, t.instantiate env (t.commands.map t.cutCommand) [] = .ok step) ↔
      t.DefinedUnder env [] := by
    rw [← not_iff_not, StepTemplate.not_definedUnder_iff]
    cases t.instantiate env (t.commands.map t.cutCommand) [] <;> simp
  rw [hdefined]
  unfold StepTemplate.DefinedUnder
  refine forall₂_congr fun text _ => ?_
  rw [interpolate_nil]
  refine ⟨fun h _ => h, fun h => ?_⟩
  by_cases hplain : IsPlain text
  · exact ⟨text, hplain.substitute env.lookup⟩
  · exact h hplain

end Template

/-- **Plain text comes through, but for the characters of the stand-ins.**  A template without
placeholders that is planned by itself makes its step exactly when its lines can be cut and the
texts that are not plain have their variables.  In every list of templates that is planned it has
the one step of its name, whose commands have every plain text of the template at its place, with
the characters of the stand-ins put back.  A text comes out as it is exactly when it has none of
them. -/
theorem expand_transparent (env : Environment) (axes : List Axis) {t : StepTemplate}
    (hunfilled : ∀ text ∈ t.texts, Unfilled text) :
    ((∃ step, expand env axes [t] = .ok [step]) ↔
      t.Cuts ∧ ∀ text ∈ t.fillings, ¬ IsPlain text → env.Defines text) ∧
    (∀ templates steps, t ∈ templates → expand env axes templates = .ok steps →
      ∃ step ∈ steps, expandTemplate env axes t = .ok [step] ∧ step.name = t.label ∧
        List.Forall₂ (Command.Transparent t) t.commands step.commands) ∧
    ∀ text, unmark text = text ↔ Unmarked text.toList := by
  have hok : ∀ {steps}, expandTemplate env axes t = .ok steps →
      ∃ step, steps = [step] ∧ t.Instantiated env [] step := by
    intro steps h
    obtain ⟨-, -, hmade⟩ := expandTemplate_take h
    obtain ⟨-, -, hbindings, -⟩ := t.countedBindings_of_unfilled hunfilled axes
    rw [← StepTemplate.countedBindings, hbindings] at hmade
    obtain ⟨step, others, hstep, hothers, rfl⟩ := List.forall₂_cons_left_iff.1 hmade
    rw [List.forall₂_nil_left_iff.1 hothers]
    exact ⟨step, rfl, hstep⟩
  refine ⟨?_, fun templates steps ht h => ?_, unmark_eq_self_iff⟩
  · rw [← StepTemplate.instantiate_nil_eq_ok_iff]
    constructor
    · rintro ⟨step, h⟩
      obtain ⟨blocks, hblocks, -⟩ := expand_eq_ok_iff.1 h
      obtain ⟨block, -, hblock, -⟩ := List.forall₂_cons_left_iff.1 hblocks
      obtain ⟨hcuts, -⟩ := expandTemplate_eq_ok_iff.1 hblock
      refine ⟨hcuts, ?_⟩
      rw [expandTemplate_of_unfilled hunfilled hcuts] at hblock
      cases hresult : t.instantiate env (t.commands.map t.cutCommand) [] with
      | ok step => exact ⟨step, rfl⟩
      | error e =>
          rw [hresult] at hblock
          cases hblock
    · rintro ⟨hcuts, step, hstep⟩
      refine ⟨step, ?_⟩
      rw [expand_of_one (expandTemplate_of_unfilled hunfilled hcuts), hstep]
      rfl
  · obtain ⟨blocks, hblocks, rfl, -⟩ := expand_eq_ok_iff.1 h
    obtain ⟨block, hmem, hblock⟩ := exists_of_mem_forall₂ hblocks.flip ht
    obtain ⟨step, rfl, hstep⟩ := hok hblock
    refine ⟨step, List.mem_flatten.2 ⟨_, hmem, List.mem_cons_self⟩, hblock, ?_, hstep.transparent⟩
    rw [hstep.made.1, interpolate_nil]

namespace Sample

/-- A template with plain text of many kinds: a word behind a comment and a quoted word, a directory
and a log file. -/
def plainTemplate : StepTemplate :=
  ⟨"list", some "src/\u65e5", [⟨"# all\n'a b' k=[1];\x7d\u00e9\u00a0* end", none, some "a:b|c"⟩]⟩

/-- The step of the template. -/
def plainStep : Step :=
  ⟨"list", "", [⟨"a b", ["k=[1];\x7d\u00e9\u00a0*", "end"], .ofText "src/\u65e5",
    some (.ofText "a:b|c")⟩]⟩

/-- The plain word, the directory and the log file are in the step as they are written. -/
theorem expand_transparent_plain :
    (∀ text ∈ plainTemplate.texts, Unfilled text) ∧
      expand (namedEnv "A") [] [plainTemplate] = .ok [plainStep] ∧
      ∃ made, plainStep.commands = [made] ∧
        (∃ front, split "# all\n'a b' " = some front ∧
          made.words[front.length]? = some "k=[1];\x7d\u00e9\u00a0*") ∧
        made.dir = .ofText "src/\u65e5" ∧ made.log = some (.ofText "a:b|c") := by
  have hunfilled : ∀ text ∈ plainTemplate.texts, Unfilled text := by decide +kernel
  have hsteps : expand (namedEnv "A") [] [plainTemplate] = .ok [plainStep] :=
    eq_ok_of_toOption (by decide +kernel)
  refine ⟨hunfilled, hsteps, ?_⟩
  obtain ⟨-, hall, -⟩ := expand_transparent (namedEnv "A") [] hunfilled
  obtain ⟨step, hstep, -, -, hcommands⟩ := hall _ _ List.mem_cons_self hsteps
  obtain rfl := List.mem_singleton.1 hstep
  obtain ⟨hmade, -⟩ := List.forall₂_cons.1 hcommands
  refine ⟨_, rfl, ?_, ?_, ?_⟩
  · have hword := hmade.same "k=[1];\x7d\u00e9\u00a0*" (by decide +kernel) (by decide +kernel)
    exact hword.word "# all\n'a b' ".toList " end".toList (by decide +kernel)
  · exact (hmade.same "src/\u65e5" (by decide +kernel) (by decide +kernel)).dir rfl
  · exact (hmade.same "a:b|c" (by decide +kernel) (by decide +kernel)).log rfl

/-- A template with a stand-in in its directory, in a word of its line and in its log file. -/
def standInTemplate : StepTemplate :=
  ⟨"echo", some "\uE000x", [⟨"echo \uE001y", none, some "\uE000.log"⟩]⟩

/-- A step with a word, a directory and a log file. -/
def placedStep (dir word log : String) : Step :=
  ⟨"echo", "", [⟨"echo", [word], .ofText dir, some (.ofText log)⟩]⟩

/-- Plain texts with these characters are changed in all three places. -/
theorem expand_changes_plain :
    (IsPlain "\uE000x" ∧ IsPlain "\uE001y" ∧ IsPlain "\uE000.log") ∧
      Alone "echo \uE001y".toList "echo ".toList "\uE001y".toList [] ∧
      (∀ text ∈ standInTemplate.texts, Unfilled text) ∧
      expand (namedEnv "A") [] [standInTemplate] = .ok [placedStep "$x" "~y" "$.log"] ∧
      placedStep "$x" "~y" "$.log" ≠ placedStep "\uE000x" "\uE001y" "\uE000.log" :=
  ⟨by decide +kernel, by decide +kernel, by decide +kernel, eq_ok_of_toOption (by decide +kernel),
    by decide +kernel⟩

end Sample

end CheckMatrix
