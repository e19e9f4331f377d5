/-
Where stand-ins come to light.

The characters that stand for literal signs are put in by the marker, and nothing else has them when
the texts of the templates and the values of the axes have none.  So they are met in the words of a
marked line only, and what these become is put back before it leaves the planner: the steps show no
stand-in, whatever the environment holds.

Of a template that is refused, the report shows none either, with one exception.  The reason why a
variable is missing cites the name as it was looked up, and what is looked up is written in a marked
word.  A name without braces has only letters, digits and underscores in it, so the exception are
names in braces with a literal sign in them (`StepTemplate.Leak`).
-/
import CheckMatrix.Proofs.Plan.Blocks
import CheckMatrix.Proofs.Plan.Insertion
import CheckMatrix.Proofs.Text.Utf8

namespace CheckMatrix

open Marks

/-! ### The texts of a result -/

/-- The texts of a command. -/
def Command.texts (c : Command) : List String :=
  c.words ++ c.dir.shown :: c.log.toList.map Path.shown

/-- The texts of a step. -/
def Step.texts (s : Step) : List String :=
  s.name :: s.group :: s.commands.flatMap Command.texts

/-- The texts of an error. -/
def ConfigError.texts : ConfigError → List String
  | duplicateStep name => [name]
  | duplicateAxis name => [name]
  | duplicateAxisValue axis value => [axis, value]
  | emptyAxis axis template => [axis, template]
  | unknownAxis template axis => [template, axis]
  | missingAxisSource axis path => [axis, path.shown]
  | missingWorkingDir step path => [step, path.shown]
  | invalidCommand template command => [template, command]
  | undefinedVariable template word reason => [template, word, reason]
  | unknownGroup name => [name]
  | emptyRun => []

/-- The texts of what is reported when there is no plan. -/
def PlanError.texts : PlanError → List String
  | config cause => cause.texts
  | overflow => []

theorem Path.shown_ofText (text : String) : (Path.ofText text).shown = text := by
  rw [Path.shown, Path.ofText, Text.decode_encode, String.ofList_toList]

/-! ### Names of missing variables -/

namespace Variables

theorem Reference.value_eq_error {lookup : String → Option String} {r : Reference} {u : Undefined}
    (h : r.value lookup = .error u) :
    lookup u.name = none ∧ r.fallback = none ∧ u.name = String.ofList r.name := by
  unfold Reference.value at h
  split at h
  · cases h
  · cases h
  · rename_i hlookup hfallback
    cases h
    exact ⟨hlookup, hfallback, rfl⟩

/-- What stands between braces is the name, if it has no text to use instead in it. -/
theorem Reference.ofBraced_of_missing {body : List Char}
    (h : (Reference.ofBraced body).fallback = none) : (Reference.ofBraced body).name = body := by
  unfold Reference.ofBraced at h ⊢
  split at h
  · cases h
  · rfl

/-- A reference without a text to use instead has braces around its name, or the name is made of
letters, digits and underscores. -/
theorem Reference.opened?_written {text : List Char} {r : Reference}
    (h : Reference.opened? text = some r) (hfallback : r.fallback = none) :
    (∃ after, text = '{' :: (r.name ++ '}' :: after)) ∨ ∀ c ∈ r.name, isNameChar c = true := by
  cases text with
  | nil => cases h
  | cons c rest =>
      by_cases hbrace : c = '{'
      · simp only [Reference.opened?, if_pos hbrace] at h
        obtain ⟨hclosed, heq⟩ := Option.ite_none_right_eq_some.1 h
        cases heq
        have hsplit := List.takeWhile_append_dropWhile (p := (· ≠ '}')) (l := rest)
        have hstop := List.head?_dropWhile_not (· ≠ '}') rest
        cases hbehind : rest.dropWhile (· ≠ '}') with
        | nil =>
            rw [hbehind, List.append_nil] at hsplit
            rw [hsplit] at hclosed
            exact absurd hclosed (Nat.lt_irrefl _)
        | cons d after =>
            rw [hbehind] at hsplit hstop
            obtain rfl : d = '}' := by simpa using hstop
            refine .inl ⟨after, ?_⟩
            rw [Reference.ofBraced_of_missing hfallback, hbrace, hsplit]
      · exact .inr ((Reference.opened?_name h).resolve_left fun hfirst => hbrace hfirst.1).2

/-- What is missing is what a reference in the text opens. -/
theorem substituteFrom_eq_error {lookup : String → Option String} {u : Undefined}
    {text : List Char} : ∀ {skip : Nat}, substituteFrom lookup skip text = .error u →
      ∃ before rest r, text = before ++ '$' :: rest ∧ Reference.opened? rest = some r ∧
        r.value lookup = .error u := by
  induction text with
  | nil =>
      intro skip h
      cases skip <;> cases h
  | cons c rest ih =>
      -- behind the first character the search goes on in the rest, whatever was skipped
      have hlater : ∀ (front : List Char) {skip : Nat},
          (substituteFrom lookup skip rest).map (front ++ ·) = .error u →
            ∃ before after r, c :: rest = before ++ '$' :: after ∧
              Reference.opened? after = some r ∧ r.value lookup = .error u := by
        intro front skip h
        cases hrest : substituteFrom lookup skip rest with
        | ok expanded =>
            rw [hrest] at h
            cases h
        | error u' =>
            rw [hrest] at h
            cases h
            obtain ⟨before, after, r, heq, hopened, hvalue⟩ := ih hrest
            exact ⟨c :: before, after, r, congrArg (c :: ·) heq, hopened, hvalue⟩
      intro skip h
      cases skip with
      | succ skip =>
          obtain ⟨before, after, r, heq, hopened, hvalue⟩ := ih h
          exact ⟨c :: before, after, r, congrArg (c :: ·) heq, hopened, hvalue⟩
      | zero =>
          unfold substituteFrom at h
          split at h
          · exact hlater [c] h
          · rename_i hdollar
            rw [not_not] at hdollar
            split at h
            · rename_i r hopened
              split at h
              · rename_i hvalue
                cases h
                exact ⟨[], rest, r, hdollar ▸ rfl, hopened, hvalue⟩
              · exact hlater _ h
            · exact hlater ['$'] h

/-- A missing variable is named in braces, or its name has no stand-in in it. -/
theorem braced_of_substitute_error {lookup : String → Option String} {text : String}
    {u : Undefined} (h : substitute lookup text = .error u) :
    lookup u.name = none ∧
      ((∃ before after, text.toList = before ++ '$' :: '{' :: (u.name.toList ++ '}' :: after)) ∨
        Unmarked u.name.toList) := by
  have hfrom : substituteFrom lookup 0 text.toList = .error u := by
    unfold substitute at h
    cases hresult : substituteFrom lookup 0 text.toList with
    | ok expanded =>
        rw [hresult] at h
        cases h
    | error u' =>
        rw [hresult] at h
        cases h
        rfl
  obtain ⟨before, rest, r, heq, hopened, hvalue⟩ := substituteFrom_eq_error hfrom
  obtain ⟨hmissing, hfallback, hname⟩ := Reference.value_eq_error hvalue
  rw [hname, String.toList_ofList]
  refine ⟨hname ▸ hmissing, ?_⟩
  obtain ⟨after, rfl⟩ | hchars := Reference.opened?_written hopened hfallback
  · exact .inl ⟨before, after, heq⟩
  · exact .inr (unmarked_of_variable hchars)

/-- The report about a missing variable has a stand-in in it exactly when the name has. -/
theorem Undefined.unmarked_message_iff (u : Undefined) :
    Unmarked u.message.toList ↔ Unmarked u.name.toList := by
  have hfront : Unmarked "error looking key '".toList := by decide +kernel
  have hback : Unmarked "' up: environment variable not found".toList := by decide +kernel
  unfold Undefined.message Unmarked
  simp only [String.toList_append, List.forall_mem_append]
  exact ⟨fun h => h.1.2, fun h => ⟨⟨hfront, h⟩, hback⟩⟩

end Variables

/-! ### Texts without stand-ins -/

theorem unmarked_unmark (text : String) : Unmarked (unmark text).toList := by
  rw [unmark, String.toList_ofList]
  intro c hc
  obtain ⟨d, -, rfl⟩ := List.mem_map.1 hc
  have hrestored : decide (IsStandIn (restore d)) = false := by
    unfold restore
    split
    · decide
    · split
      · decide
      · rename_i hdollar htilde
        exact decide_eq_false fun hd => hd.elim hdollar htilde
  exact of_decide_eq_false hrestored

/-- A value of a combination is a value of an axis. -/
theorem mem_values_of_mem_bindingsOver {lists : List (String × List String)} {b : Binding}
    (h : b ∈ bindingsOver lists) {e : String × String} (he : e ∈ b) :
    ∃ entry ∈ lists, e.2 ∈ entry.2 := by
  induction lists generalizing b with
  | nil =>
      obtain rfl := List.mem_singleton.1 h
      cases he
  | cons entry rest ih =>
      obtain ⟨value, hvalue, h⟩ := List.mem_flatMap.1 h
      obtain ⟨others, hothers, rfl⟩ := List.mem_map.1 h
      rcases List.mem_cons.1 he with rfl | he
      · exact ⟨entry, List.mem_cons_self, hvalue⟩
      · obtain ⟨found, hfound, hmem⟩ := ih hothers he
        exact ⟨found, List.mem_cons_of_mem entry hfound, hmem⟩

theorem StepTemplate.unmarked_of_mem_bindingsOf {t : StepTemplate} {axes : List Axis}
    (haxes : ∀ axis ∈ axes, ∀ value ∈ axis.values, Unmarked value.toList) {b : Binding}
    (hb : b ∈ t.bindingsOf axes) : ∀ e ∈ b, Unmarked e.2.toList := by
  intro e he
  obtain ⟨entry, hentry, hvalue⟩ := mem_values_of_mem_bindingsOver hb he
  obtain ⟨axis, haxis, rfl⟩ := List.mem_map.1 hentry
  exact haxes axis (List.mem_of_mem_filter haxis) _ hvalue

/-- Filling in a text puts no stand-in into it. -/
theorem unmarked_interpolate {text : String} (htext : Unmarked text.toList) {b : Binding}
    (hb : ∀ e ∈ b, Unmarked e.2.toList) : Unmarked (interpolate text b).toList := by
  intro c hc
  rw [interpolate, String.toList_ofList] at hc
  obtain ⟨piece, hpiece, hc⟩ := List.mem_flatMap.1 hc
  cases piece with
  | plain d =>
      refine htext c ?_
      rw [← Piece.scan_render]
      exact List.mem_flatMap.2 ⟨.plain d, hpiece, hc⟩
  | axis name =>
      obtain ⟨front, back, hscan⟩ := List.append_of_mem hpiece
      have hname := (Piece.stands_of_scan hscan).named.2
      rw [← String.ofList_toList (s := name)] at hc
      exact unmarked_fill hb hname c hc

/-! ### One template -/

section Template

variable {env : Environment} {axes : List Axis} {t : StepTemplate}

/-- A report that shows a stand-in: under some combination, a word of a line names a variable in
braces, with a literal sign in the name, and nobody defines it. -/
inductive StepTemplate.Leak (env : Environment) (axes : List Axis) (t : StepTemplate) :
    PlanError → String → Prop
  | reason {c : CommandTemplate} {word name : String} {b : Binding} {before after : List Char}
      (hc : c ∈ t.commands) (hword : word ∈ c.words) (hb : b ∈ t.bindingsOf axes)
      (hnamed : (interpolate word b).toList =
        before ++ '$' :: '{' :: (name.toList ++ '}' :: after))
      (hmissing : env.lookup name = none) (hliteral : ¬ Unmarked name.toList) :
      t.Leak env axes
        (.config (.undefinedVariable t.label (unmark (interpolate word b))
          (Variables.Undefined.message ⟨name⟩)))
        (Variables.Undefined.message ⟨name⟩)

theorem StepTemplate.Leak.marked {e : PlanError} {text : String} (h : t.Leak env axes e text) :
    ¬ Unmarked text.toList := by
  obtain ⟨-, -, -, -, -, hliteral⟩ := h
  exact fun hunmarked => hliteral ((Variables.Undefined.unmarked_message_iff _).1 hunmarked)

theorem expandWord_unmarked {b : Binding} {word filled : String}
    (h : expandWord env t b word = .ok filled) : Unmarked filled.toList := by
  unfold expandWord at h
  dsimp only at h
  split at h
  · cases h
    exact unmarked_unmark _
  · cases h

theorem SplitCommand.unmarked_of_instantiate {b : Binding} {split : SplitCommand} {made : Command}
    (hsome : split.words ≠ []) (h : split.instantiate env t b = .ok made) :
    ∀ text ∈ made.texts, Unmarked text.toList := by
  obtain ⟨hwords, ⟨dir, hdir, hmadeDir⟩, hlog⟩ := SplitCommand.instantiate_eq_ok hsome h
  refine List.forall_mem_append.2 ⟨fun text htext => ?_, List.forall_mem_cons.2 ⟨?_, ?_⟩⟩
  · obtain ⟨word, -, hword⟩ := exists_of_mem_forall₂ hwords htext
    exact expandWord_unmarked hword
  · rw [hmadeDir, Path.shown_ofText]
    exact expandWord_unmarked hdir
  · intro text htext
    generalize split.log = written at hlog
    generalize made.log = log at hlog htext
    cases hlog with
    | none => cases htext
    | some hfound =>
        obtain ⟨filled, hfilled, rfl⟩ := hfound
        obtain rfl := List.mem_singleton.1 htext
        rw [Path.shown_ofText]
        exact expandWord_unmarked hfilled

variable (haxes : ∀ axis ∈ axes, ∀ value ∈ axis.values, Unmarked value.toList)
  (htexts : ∀ text ∈ t.texts, Unmarked text.toList)

include haxes htexts

/-- No text of a step shows a stand-in. -/
theorem expandTemplate_unmarked {steps : List Step} (h : expandTemplate env axes t = .ok steps) :
    ∀ step ∈ steps, ∀ text ∈ step.texts, Unmarked text.toList := by
  obtain ⟨-, -, hmade⟩ := expandTemplate_take h
  intro step hstep
  obtain ⟨b, hb, hinstantiated⟩ := exists_of_mem_forall₂ hmade hstep
  have hvalues := t.unmarked_of_mem_bindingsOf haxes (List.mem_of_mem_take hb)
  obtain ⟨hname, hcommands⟩ := hinstantiated.made
  have hgroup : step.group = "" := by
    obtain ⟨commands, -, hmade⟩ := hinstantiated
    obtain ⟨made, -, hmade⟩ := bind_eq_ok_iff.1 hmade
    cases hmade
    rfl
  refine List.forall_mem_cons.2 ⟨?_, List.forall_mem_cons.2 ⟨?_, fun text htext => ?_⟩⟩
  · rw [hname]
    exact unmarked_interpolate (htexts _ List.mem_cons_self) hvalues
  · rw [hgroup]
    decide
  · obtain ⟨made, hmade, htext⟩ := List.mem_flatMap.1 htext
    obtain ⟨c, -, split, hsplit, hinstantiate⟩ := exists_of_mem_forall₂ hcommands hmade
    have hsome := (SplitCommand.ofTemplate_eq_ok hsplit).2.1
    exact split.unmarked_of_instantiate hsome hinstantiate text htext

omit haxes in
/-- The texts that are filled in have no stand-ins, unless they are words of a line. -/
theorem StepTemplate.mem_words_or_unmarked {text : String} (h : text ∈ t.fillings) :
    (∃ c ∈ t.commands, text ∈ c.words) ∨ Unmarked text.toList := by
  obtain ⟨c, hc, htext⟩ := List.mem_flatMap.1 h
  have hcommand : ∀ written ∈ c.texts, Unmarked written.toList := by
    intro written hwritten
    refine htexts written (List.mem_cons_of_mem _ (List.mem_append_right _ ?_))
    exact List.mem_flatMap.2 ⟨c, hc, hwritten⟩
  rcases List.mem_append.1 htext with hword | htext
  · simp only [StepTemplate.cutCommand] at hword
    exact .inl ⟨c, hc, hword⟩
  rcases List.mem_cons.1 htext with rfl | hlog
  · -- the directory of the command, that of the template, or the dot
    refine .inr ?_
    simp only [StepTemplate.cutCommand]
    cases hdir : c.dir with
    | some dir => exact hcommand dir (by simp [CommandTemplate.texts, hdir])
    | none =>
        cases hshared : t.dir with
        | some dir => exact htexts dir (by simp [StepTemplate.texts, hshared])
        | none => decide
  · refine .inr (hcommand text ?_)
    exact List.mem_cons_of_mem _ (List.mem_append_right _ hlog)

omit haxes in
/-- No text of a report about a line that cannot be cut shows one, -/
theorem StepTemplate.unmarked_of_splitCommands {e : ConfigError} (h : t.splitCommands = .error e) :
    ∀ text ∈ e.texts, Unmarked text.toList := by
  have hlabel : Unmarked t.label.toList := htexts _ List.mem_cons_self
  obtain ⟨c, hc, rfl⟩ | ⟨-, rfl⟩ := StepTemplate.splitCommands_eq_error_iff.1 h
  · have hrun : Unmarked c.run.toList := by
      refine htexts _ (List.mem_cons_of_mem _ (List.mem_append_right _ ?_))
      exact List.mem_flatMap.2 ⟨c, hc.mem, List.mem_cons_self⟩
    exact List.forall_mem_cons.2 ⟨hlabel, List.forall_mem_singleton.2 hrun⟩
  · exact List.forall_mem_cons.2 ⟨hlabel, List.forall_mem_singleton.2 (by decide)⟩

omit haxes in
/-- or about an axis, since an axis that is referred to has the name of a placeholder, -/
theorem StepTemplate.unmarked_of_usedAxes {e : ConfigError} (h : t.usedAxes axes = .error e) :
    ∀ text ∈ e.texts, Unmarked text.toList := by
  have hlabel : Unmarked t.label.toList := htexts _ List.mem_cons_self
  have hname : ∀ name ∈ t.referencedAxes, Unmarked name.toList :=
    fun name hname => unmarked_of_placeholder (t.isName_of_mem hname).2
  obtain ⟨name, hunknown, rfl⟩ | ⟨-, axis, hempty, rfl⟩ :=
    StepTemplate.usedAxes_eq_error_iff.1 h
  · exact List.forall_mem_cons.2 ⟨hlabel, List.forall_mem_singleton.2 (hname _ hunknown.mem)⟩
  · have haxis := hname _ (t.mem_referencedAxes_of_mem_axesOf hempty.mem)
    exact List.forall_mem_cons.2 ⟨haxis, List.forall_mem_singleton.2 hlabel⟩

/-- and of a report about a variable only the reason does, if a line names it in this way. -/
theorem leak_of_expandWord {b : Binding} (hb : b ∈ t.bindingsOf axes) {word : String}
    (hword : word ∈ t.fillings) {e : ConfigError} (h : expandWord env t b word = .error e)
    {text : String} (htext : text ∈ e.texts) (hmarked : ¬ Unmarked text.toList) :
    t.Leak env axes (.config e) text := by
  obtain ⟨u, hu, rfl⟩ := expandWord_eq_error_iff.1 h
  obtain ⟨hmissing, hnamed⟩ := Variables.braced_of_substitute_error hu
  simp only [ConfigError.texts, List.mem_cons, List.not_mem_nil, or_false] at htext
  rcases htext with rfl | rfl | rfl
  · exact absurd (htexts _ List.mem_cons_self) hmarked
  · exact absurd (unmarked_unmark _) hmarked
  · rw [Variables.Undefined.unmarked_message_iff] at hmarked
    obtain ⟨before, after, hnamed⟩ := hnamed.resolve_right hmarked
    obtain ⟨c, hc, hword⟩ | hplain := t.mem_words_or_unmarked htexts hword
    · exact .reason hc hword hb hnamed hmissing hmarked
    · -- a directory and a log file are not marked, and a name in them is not either
      have hfilled := unmarked_interpolate hplain (t.unmarked_of_mem_bindingsOf haxes hb)
      refine absurd (fun d hd => hfilled d ?_) hmarked
      rw [hnamed]
      simp [hd]

theorem leak_of_expandTemplate {e : PlanError} (h : expandTemplate env axes t = .error e)
    {text : String} (htext : text ∈ e.texts) (hmarked : ¬ Unmarked text.toList) :
    t.Leak env axes e text := by
  cases e with
  | overflow => cases htext
  | config cause =>
      obtain hlines | hsettled | he | ⟨b, hb, word, hword, hrefused⟩ := expandTemplate_eq_error h
      · have hsplit := checked_eq_config_iff.1 hlines
        exact absurd (t.unmarked_of_splitCommands htexts hsplit text htext) hmarked
      · have hused := checked_eq_config_iff.1 hsettled
        exact absurd (t.unmarked_of_usedAxes htexts hused text htext) hmarked
      · cases he
      · have hundefined := checked_eq_config_iff.1 hrefused
        exact leak_of_expandWord haxes htexts hb hword hundefined htext hmarked

end Template

/-! ### Lists of templates -/

/-- **Stand-ins come to light in one place only.**  When neither the values of the axes nor the
texts of the templates have stand-ins, no text of a step has one, and a text of an error has one
exactly when it is the reason why a variable is missing that a command line names in braces, with a
literal sign in its name. -/
theorem expand_unmarked {env : Environment} {axes : List Axis} {templates : List StepTemplate}
    (haxes : ∀ axis ∈ axes, ∀ value ∈ axis.values, Unmarked value.toList)
    (htemplates : ∀ t ∈ templates, ∀ text ∈ t.texts, Unmarked text.toList) :
    (∀ steps, expand env axes templates = .ok steps →
      ∀ step ∈ steps, ∀ text ∈ step.texts, Unmarked text.toList) ∧
    ∀ e, expand env axes templates = .error e → ∀ text ∈ e.texts,
      (¬ Unmarked text.toList ↔ ∃ t ∈ templates, t.Leak env axes e text) := by
  refine ⟨fun steps h step hstep => ?_, fun e h text htext => ⟨fun hmarked => ?_, ?_⟩⟩
  · obtain ⟨blocks, hblocks, rfl, -⟩ := expand_eq_ok_iff.1 h
    obtain ⟨block, hblock, hstep⟩ := List.mem_flatten.1 hstep
    have hall := (List.forall₂_and_left _ _).2 ⟨htemplates, hblocks⟩
    obtain ⟨t, -, htexts, hexpanded⟩ := exists_of_mem_forall₂ hall hblock
    exact expandTemplate_unmarked haxes htexts hexpanded step hstep
  · obtain ⟨t, ht, hrefused | ⟨steps, step, hsteps, hstep, rfl⟩⟩ := expand_eq_error h
    · exact ⟨t, ht, leak_of_expandTemplate haxes (htemplates t ht) hrefused htext hmarked⟩
    · obtain rfl := List.mem_singleton.1 htext
      have hstepTexts := expandTemplate_unmarked haxes (htemplates t ht) hsteps step hstep
      exact absurd (hstepTexts _ List.mem_cons_self) hmarked
  · rintro ⟨t, -, hleak⟩
    exact hleak.marked

namespace Sample

/-- A template with literal signs of each kind, and placeholders in every place. -/
def literalTemplate : StepTemplate :=
  ⟨"try {v}", some "out/{v}", [⟨"echo '$1' \\~ \"\\$A\" {v}", none, some "{v}.log"⟩]⟩

/-- An axis with both signs in its value. -/
def dollarAxes : List Axis :=
  [⟨"v", ["$A~"], by decide⟩]

/-- The step, in which the variable is filled in and the signs are put back. -/
def literalStep : Step :=
  ⟨"try $A~", "", [⟨"echo", ["$1", "~", "$A", "v~"], .ofText "out/v~", some (.ofText "v~.log")⟩]⟩

theorem dollarLine_unmarked : ∀ text ∈ (lineTemplate dollarLine).texts, Unmarked text.toList := by
  decide +kernel

/-- The step shows no stand-in, and the report about the name in braces does for this reason. -/
theorem expand_unmarked_literal :
    (∀ axis ∈ dollarAxes, ∀ value ∈ axis.values, Unmarked value.toList) ∧
      (∀ t ∈ [literalTemplate, lineTemplate dollarLine], ∀ text ∈ t.texts, Unmarked text.toList) ∧
      expand (namedEnv "A") dollarAxes [literalTemplate] = .ok [literalStep] ∧
      (∀ text ∈ literalStep.texts, Unmarked text.toList) ∧
      expand (namedEnv "A") dollarAxes [literalTemplate, lineTemplate dollarLine] =
        .error (missingDollar "A\uE000B") ∧
      ∃ t ∈ [literalTemplate, lineTemplate dollarLine],
        t.Leak (namedEnv "A") dollarAxes (missingDollar "A\uE000B")
          (Variables.Undefined.message ⟨"A\uE000B"⟩) := by
  have haxes : ∀ axis ∈ dollarAxes, ∀ value ∈ axis.values, Unmarked value.toList := by decide
  have htemplates : ∀ t ∈ [literalTemplate, lineTemplate dollarLine],
      ∀ text ∈ t.texts, Unmarked text.toList :=
    List.forall_mem_cons.2 ⟨by decide +kernel, List.forall_mem_singleton.2 dollarLine_unmarked⟩
  have hsteps : expand (namedEnv "A") dollarAxes [literalTemplate] = .ok [literalStep] :=
    eq_ok_of_toOption (by decide +kernel)
  have herror : expand (namedEnv "A") dollarAxes [literalTemplate, lineTemplate dollarLine] =
      .error (missingDollar "A\uE000B") := eq_error_of_refusal? (by decide +kernel)
  refine ⟨haxes, htemplates, hsteps, ?_, herror, ?_⟩
  · have hfirst := (List.forall_mem_cons.1 htemplates).1
    exact (expand_unmarked haxes (List.forall_mem_singleton.2 hfirst)).1 _ hsteps _
      List.mem_cons_self
  · have hreason : Variables.Undefined.message ⟨"A\uE000B"⟩ ∈ (missingDollar "A\uE000B").texts :=
      List.mem_of_getLast? rfl
    have hmarked : ¬ Unmarked (Variables.Undefined.message ⟨"A\uE000B"⟩).toList := by
      decide +kernel
    exact ((expand_unmarked haxes htemplates).2 _ herror _ hreason).1 hmarked

/-- A report shows a stand-in though none is written anywhere. -/
theorem expand_shows_standIn :
    (∀ text ∈ (lineTemplate dollarLine).texts, Unmarked text.toList) ∧
      (∀ e ∈ quotingEnv.table.entries ++ quotingEnv.process.vars, Unmarked (writtenSetting e)) ∧
      (∀ dir ∈ quotingEnv.process.accountHome, Unmarked dir.toList) ∧
      expand quotingEnv [] [lineTemplate dollarLine] = .error (missingDollar "A\uE000B") ∧
      ∃ text ∈ (missingDollar "A\uE000B").texts, ¬ Unmarked text.toList := by
  exact ⟨dollarLine_unmarked, by decide +kernel, by decide +kernel,
    eq_error_of_refusal? (by decide +kernel), by decide +kernel⟩

end Sample

end CheckMatrix
