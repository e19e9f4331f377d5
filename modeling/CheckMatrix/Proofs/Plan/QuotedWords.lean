/-
What a command line says, and what is planned for it.

The rule: a line is split into words, every character keeping whether quotes or a backslash made it
literal; placeholders are filled in once in every word; dollar signs that are not literal then open
variables; and a word that began with a tilde that is not literal begins with the home directory.
`expandQuoted` makes the steps of a template by that rule, with tagged words in place of texts.

Planning makes the same steps (`expandTemplate_eq_expandQuoted`).  It works on plain texts, in which
private-use characters stand for what is literal, so nothing that is filled in may have one of them:
neither the line, nor a value of an axis or a variable, nor the home directory.  The names of
variables count as well, since a name between braces is looked up as it was marked.  In the reason
why a variable is missing, its name still shows the stand-ins.
-/
import CheckMatrix.Proofs.Plan.Enumeration
import CheckMatrix.Proofs.Text.Filling

namespace CheckMatrix

open Marks

/-! ### The rule -/

/-- Fills in one tagged word. -/
def Glyph.expand (env : Environment) (t : StepTemplate) (binding : Binding) (word : List Glyph) :
    Except ConfigError String :=
  let filled := Glyph.fill binding word
  match Glyph.substituteFrom env.lookup 0 filled with
  | .error e =>
    .error (.undefinedVariable t.label (String.ofList (filled.map Glyph.char)) e.message)
  | .ok expanded =>
    .ok (if filled.head? = some (Glyph.active '~') then
      Variables.expandTilde env.process.home? (String.ofList expanded)
    else String.ofList expanded)

/-- A command line cut into tagged words, with the directory and the log file it will have. -/
structure QuotedCommand where
  words : List (List Glyph)
  dir : String
  log : Option String
  deriving DecidableEq, Repr

namespace QuotedCommand

/-- Cuts the line of a command into words; a line that cannot be cut or has no word is refused. -/
def ofTemplate (t : StepTemplate) (c : CommandTemplate) : Except ConfigError QuotedCommand :=
  match Words.splitGlyphs c.run with
  | some (program :: args) => .ok ⟨program :: args, (c.dir.or t.dir).getD ".", c.log⟩
  | _ => .error (.invalidCommand t.label c.run)

/-- Fills in one command.  Nothing quotes a directory or a log file. -/
def instantiate (env : Environment) (t : StepTemplate) (binding : Binding) (c : QuotedCommand) :
    Except ConfigError Command := do
  let words ← c.words.mapM (Glyph.expand env t binding)
  let dir ← expandWord env t binding c.dir
  let log ← c.log.mapM (expandWord env t binding)
  return ⟨words.headD "", words.tail, .ofText dir, log.map Path.ofText⟩

end QuotedCommand

namespace StepTemplate

/-- The command lines of a template cut into words; a template without commands is refused. -/
def quotedCommands (t : StepTemplate) : Except ConfigError (List QuotedCommand) := do
  let commands ← t.commands.mapM (QuotedCommand.ofTemplate t)
  if commands.isEmpty then .error (.invalidCommand t.label "") else return commands

/-- The step that a template makes of one combination. -/
def instantiateQuoted (env : Environment) (t : StepTemplate) (commands : List QuotedCommand)
    (binding : Binding) : Except ConfigError Step := do
  let commands ← commands.mapM (QuotedCommand.instantiate env t binding)
  return ⟨interpolate t.label binding, "", commands⟩

end StepTemplate

/-- The steps of one template, one per combination, by the rule. -/
def expandQuoted (env : Environment) (axes : List Axis) (t : StepTemplate) :
    Except PlanError (List Step) := do
  let commands ← checked t.quotedCommands
  let used ← checked (t.usedAxes axes)
  askRoom (countedCombinations used)
  checked <| (Cursor.walk used (countedCombinations used) (.first used)).mapM fun cursor =>
    t.instantiateQuoted env commands (cursor.binding used)

/-! ### One word -/

/-- An environment in which nothing could be taken for a literal character. -/
structure Environment.Plain (env : Environment) : Prop where
  lookups : Variables.Plain env.lookup
  home : ∀ dir, env.process.home? = some dir → Unmarked dir.toList

/-- The error with the characters of a missing variable put back in its reason. -/
def ConfigError.unmarked : ConfigError → ConfigError
  | undefinedVariable t word reason => undefinedVariable t word (unmark reason)
  | e => e

/-- The same for a plan that is not made. -/
def PlanError.unmarked : PlanError → PlanError
  | config cause => config cause.unmarked
  | overflow => overflow

theorem unmark_append (first second : String) :
    unmark (first ++ second) = unmark first ++ unmark second := by
  simp [unmark, String.ofList_append]

theorem unmark_of_unmarked {text : String} (h : Unmarked text.toList) : unmark text = text := by
  rw [unmark, h.restore, String.ofList_toList]

theorem unmark_unmark (text : String) : unmark (unmark text) = unmark text := by
  have htwice : Marks.restore ∘ Marks.restore = Marks.restore :=
    funext (test_restore (by decide) (by decide))
  simp only [unmark, String.toList_ofList, List.map_map, htwice]

theorem Variables.Undefined.unmark_message (e : Variables.Undefined) :
    unmark e.message = e.unmarked.message := by
  have hfront : unmark "error looking key '" = "error looking key '" :=
    unmark_of_unmarked (by decide +kernel)
  have hback : unmark "' up: environment variable not found" =
      "' up: environment variable not found" := unmark_of_unmarked (by decide +kernel)
  unfold Variables.Undefined.message Variables.Undefined.unmarked
  rw [unmark_append, unmark_append, hfront, hback]

/-- A tilde at the front is expanded alike before and after the characters are put back. -/
theorem unmark_expandTilde {home : Option String}
    (hhome : ∀ dir, home = some dir → Unmarked dir.toList) {text : String}
    (htilde : text.toList.head? = some '~') :
    unmark (Variables.expandTilde home text) = Variables.expandTilde home (unmark text) := by
  obtain ⟨rest, hrest⟩ := List.head?_eq_some_iff.1 htilde
  have hunmarked : (unmark text).toList = '~' :: rest.map Marks.restore := by
    rw [unmark, String.toList_ofList, hrest]
    rfl
  have hslash : rest.map Marks.restore = [] ∨ (rest.map Marks.restore).head? = some '/' ↔
      rest = [] ∨ rest.head? = some '/' := by
    cases rest with
    | nil => simp
    | cons c rest => simpa using restore_eq_iff (by decide) (by decide) (by decide) c
  cases home with
  | none =>
      simp only [Variables.expandTilde, hrest, hunmarked]
  | some dir =>
      simp only [Variables.expandTilde, hrest, hunmarked, hslash]
      split
      · rw [unmark_append, unmark_of_unmarked (hhome dir rfl), unmark, String.toList_ofList]
      · rfl

/-- Filling in leaves a tilde at the front. -/
theorem Variables.substitute_tilde {lookup : String → Option String} {text expanded : String}
    (h : Variables.substitute lookup text = .ok expanded) (htilde : text.toList.head? = some '~') :
    expanded.toList.head? = some '~' := by
  obtain ⟨rest, hrest⟩ := List.head?_eq_some_iff.1 htilde
  rw [Variables.substitute, hrest, Variables.substituteFrom, if_pos (by decide)] at h
  cases hlater : Variables.substituteFrom lookup 0 rest with
  | error e =>
      rw [hlater] at h
      cases h
  | ok later =>
      rw [hlater] at h
      cases h
      rw [String.toList_ofList]
      rfl

/-- **A word that is marked becomes what the tagged word becomes.** -/
theorem expandWord_beside {env : Environment} (henv : env.Plain) {t : StepTemplate}
    {binding : Binding} (hbinding : ∀ e ∈ binding, Unmarked e.2.toList) {gs : List Glyph}
    {word : String} (h : Spells false gs word.toList) :
    Beside ConfigError.unmarked (· = ·) (expandWord env t binding word)
      (Glyph.expand env t binding gs) := by
  have hfilled := spells_fill hbinding h
  have hsubstitute := substituteFrom_restore henv.lookups hfilled 0
  have hword : unmark (interpolate word binding) =
      String.ofList ((Glyph.fill binding gs).map Glyph.char) := by
    rw [unmark, hfilled.restore]
  unfold expandWord Glyph.expand expandVariables Variables.substitute
  simp only [hsubstitute, hfilled.head_tilde_iff, hword]
  cases hexpanded : Variables.substituteFrom env.lookup 0 (interpolate word binding).toList with
  | error e =>
      refine .refused (congrArg (ConfigError.undefinedVariable t.label _) ?_)
      rw [← e.unmark_message, unmark_unmark]
  | ok expanded =>
      have hput : unmark (String.ofList expanded) = String.ofList (expanded.map Marks.restore) := by
        rw [unmark, String.toList_ofList]
      refine .done ?_
      simp only [← hput]
      split
      · rename_i htilde
        have hsubstituted : Variables.substitute env.lookup (interpolate word binding) =
            .ok (String.ofList expanded) := by
          rw [Variables.substitute, hexpanded]
          rfl
        exact unmark_expandTilde henv.home (Variables.substitute_tilde hsubstituted htilde)
      · rfl

/-! ### Commands and steps -/

/-- A command whose words are spelled by the words of another one. -/
structure SplitCommand.SpellsQuoted (c : SplitCommand) (q : QuotedCommand) : Prop where
  words : List.Forall₂ (fun word gs => Spells false gs word.toList) c.words q.words
  dir : c.dir = q.dir
  log : c.log = q.log

/-- A line without stand-ins and comments is cut alike. -/
theorem SplitCommand.ofTemplate_beside (t : StepTemplate) {c : CommandTemplate}
    (hunmarked : Unmarked c.run.toList) (huncommented : Words.Uncommented .gap c.run.toList) :
    Beside ConfigError.unmarked SplitCommand.SpellsQuoted (SplitCommand.ofTemplate t c)
      (QuotedCommand.ofTemplate t c) := by
  have hwords := Words.split_mark hunmarked (huncommented.settled (by decide))
  unfold SplitCommand.ofTemplate QuotedCommand.ofTemplate
  revert hwords
  generalize Words.splitGlyphs c.run = quoted
  generalize Words.split (mark c.run) = words
  intro hwords
  cases hwords with
  | none => exact .refused rfl
  | some hspells =>
      cases hspells with
      | nil => exact .refused rfl
      | cons hfirst hrest => exact .done ⟨.cons hfirst hrest.flip, rfl, rfl⟩

theorem StepTemplate.splitCommands_beside {t : StepTemplate}
    (hruns : ∀ c ∈ t.commands, Unmarked c.run.toList ∧ Words.Uncommented .gap c.run.toList) :
    Beside ConfigError.unmarked (List.Forall₂ SplitCommand.SpellsQuoted) t.splitCommands
      t.quotedCommands := by
  have hcommands := Beside.mapM_same t.commands fun c hc =>
    SplitCommand.ofTemplate_beside t (hruns c hc).1 (hruns c hc).2
  refine hcommands.bind fun commands quoted hspells => ?_
  cases hspells with
  | nil => exact .refused rfl
  | cons hfirst hrest => exact .done (.cons hfirst hrest)

section Instantiate

variable {env : Environment} (henv : env.Plain)

include henv

theorem SplitCommand.instantiate_beside {t : StepTemplate} {binding : Binding}
    (hbinding : ∀ e ∈ binding, Unmarked e.2.toList) {c : SplitCommand} {q : QuotedCommand}
    (h : c.SpellsQuoted q) :
    Beside ConfigError.unmarked (· = ·) (c.instantiate env t binding)
      (q.instantiate env t binding) := by
  have hwords := Beside.mapM h.words fun word gs hspells =>
    expandWord_beside henv (t := t) hbinding hspells
  unfold SplitCommand.instantiate QuotedCommand.instantiate
  rw [h.dir, h.log]
  refine hwords.bind fun words words' heq => ?_
  rw [List.forall₂_eq_eq_eq] at heq
  subst heq
  exact .refl _

theorem StepTemplate.instantiate_beside {t : StepTemplate} {binding : Binding}
    (hbinding : ∀ e ∈ binding, Unmarked e.2.toList) {commands : List SplitCommand}
    {quoted : List QuotedCommand} (h : List.Forall₂ SplitCommand.SpellsQuoted commands quoted) :
    Beside ConfigError.unmarked (· = ·) (t.instantiate env commands binding)
      (t.instantiateQuoted env quoted binding) := by
  have hcommands := Beside.mapM h fun c q hspells =>
    SplitCommand.instantiate_beside henv (t := t) hbinding hspells
  refine hcommands.bind fun commands commands' heq => ?_
  rw [List.forall₂_eq_eq_eq] at heq
  exact .done (congrArg _ heq)

end Instantiate

/-- A cursor stands at values of the axes, or at none. -/
theorem Cursor.binding_unmarked {axes : List Axis}
    (haxes : ∀ axis ∈ axes, ∀ value ∈ axis.values, Unmarked value.toList) :
    ∀ cursor : Cursor, ∀ e ∈ cursor.binding axes, Unmarked e.2.toList := by
  induction axes with
  | nil =>
      intro cursor e he
      cases he
  | cons axis rest ih =>
      intro cursor e he
      cases cursor with
      | nil => cases he
      | cons place cursor =>
          rcases List.mem_cons.1 he with rfl | he
          · have hvalues := haxes axis List.mem_cons_self
            rw [List.getD_eq_getElem?_getD]
            cases hplace : axis.values[place]? with
            | none => exact fun c hc => absurd hc List.not_mem_nil
            | some value => exact hvalues value (List.mem_of_getElem? hplace)
          · exact ih (fun a ha => haxes a (List.mem_cons_of_mem axis ha)) cursor e he

/-- What is planned for a template is what its command lines say, whether it succeeds or not. -/
theorem expandTemplate_beside {env : Environment} (henv : env.Plain) {axes : List Axis}
    (haxes : ∀ axis ∈ axes, ∀ value ∈ axis.values, Unmarked value.toList) {t : StepTemplate}
    (hruns : ∀ c ∈ t.commands, Unmarked c.run.toList ∧ Words.Uncommented .gap c.run.toList) :
    Beside PlanError.unmarked (· = ·) (expandTemplate env axes t) (expandQuoted env axes t) := by
  have hlook (e : ConfigError) : PlanError.unmarked (.config e) = .config e.unmarked := rfl
  refine ((t.splitCommands_beside hruns).checked hlook).bind fun commands quoted hspells => ?_
  cases hused : t.usedAxes axes with
  | error e => exact .refused rfl
  | ok used =>
      have hvalues : ∀ axis ∈ used, ∀ value ∈ axis.values, Unmarked value.toList := by
        intro axis haxis
        rw [(t.usedAxes_eq_ok hused).1] at haxis
        exact haxes axis (List.mem_filter.1 haxis).1
      have hsteps := Beside.mapM_same (Cursor.walk used (countedCombinations used) (.first used))
        fun cursor _ => t.instantiate_beside henv (cursor.binding_unmarked hvalues) hspells
      rw [List.forall₂_eq_eq_eq] at hsteps
      exact (Beside.refl (askRoom (countedCombinations used))).bind fun _ _ _ =>
        hsteps.checked hlook

/-- **Command words follow the rules of quoting.** -/
theorem expandTemplate_eq_expandQuoted {env : Environment} (henv : env.Plain) {axes : List Axis}
    (haxes : ∀ axis ∈ axes, ∀ value ∈ axis.values, Unmarked value.toList) {t : StepTemplate}
    (hruns : ∀ c ∈ t.commands, Unmarked c.run.toList ∧ '#' ∉ c.run.toList) :
    (expandTemplate env axes t).mapError PlanError.unmarked =
      (expandQuoted env axes t).mapError PlanError.unmarked := by
  refine (expandTemplate_beside henv haxes fun c hc => ⟨(hruns c hc).1, ?_⟩).mapError_eq
  exact Words.uncommented_of_notMem (hruns c hc).2 (by decide)

/-! ### Environments in which nothing looks like a stand-in -/

/-- A setting as it is written. -/
def writtenSetting (setting : String × String) : List Char :=
  setting.1.toList ++ '=' :: setting.2.toList

theorem EnvTable.mem_of_get? {table : EnvTable} {name value : String}
    (h : table.get? name = some value) : (name, value) ∈ table.entries := by
  obtain ⟨before, behind, heq, -⟩ := List.lookup_eq_some_iff.1 h
  exact heq ▸ List.mem_append_right _ List.mem_cons_self

theorem ProcessEnv.written_of_get? {process : ProcessEnv} {name value : String}
    (h : process.get? name = some value) :
    ∃ e ∈ process.vars, writtenSetting e = writtenSetting (name, value) := by
  unfold ProcessEnv.get? at h
  split at h
  · cases h
  · obtain ⟨e, he, hvalue⟩ := List.exists_of_findSome?_eq_some h
    refine ⟨e, he, ?_⟩
    unfold ProcessEnv.valueUnder? at hvalue
    simp only at hvalue
    split at hvalue
    · rename_i hprefix
      obtain ⟨rest, hrest⟩ := List.isPrefixOf_iff_prefix.1 hprefix
      rw [← hrest, List.drop_left] at hvalue
      cases hvalue
      rw [writtenSetting, writtenSetting, ← hrest, String.toList_ofList, List.append_assoc]
      rfl
    · cases hvalue

/-- What a variable is found under and what it is are written in one of the settings. -/
theorem Environment.written_of_lookup {env : Environment} {name value : String}
    (h : env.lookup name = some value) :
    ∃ e ∈ env.table.entries ++ env.process.vars,
      writtenSetting e = writtenSetting (name, value) := by
  rcases Option.or_eq_some_iff.1 h with htable | ⟨-, hprocess⟩
  · exact ⟨(name, value), List.mem_append_left _ (EnvTable.mem_of_get? htable), rfl⟩
  · obtain ⟨e, he, heq⟩ := ProcessEnv.written_of_get? hprocess
    exact ⟨e, List.mem_append_right _ he, heq⟩

/-- Settings that are written without stand-ins and without a tilde behind a backslash make a plain
environment. -/
theorem Environment.plain_of_written {env : Environment}
    (hsettings : ∀ e ∈ env.table.entries ++ env.process.vars,
      Unmarked (writtenSetting e) ∧ ¬ ['\\', '~'] <:+: writtenSetting e)
    (haccount : ∀ dir ∈ env.process.accountHome, Unmarked dir.toList) : env.Plain := by
  have hfound : ∀ name value, env.lookup name = some value →
      Unmarked (writtenSetting (name, value)) ∧
        ¬ ['\\', '~'] <:+: writtenSetting (name, value) := by
    intro name value h
    obtain ⟨e, he, heq⟩ := env.written_of_lookup h
    exact heq ▸ hsettings e he
  refine ⟨⟨fun name value h c hc => ?_, fun name value h c hc => ?_, fun name value h hslash => ?_⟩,
    fun dir hdir => ?_⟩
  · exact (hfound name value h).1 c (List.mem_append_right _ (List.mem_cons_of_mem _ hc))
  · exact (hfound name value h).1 c (List.mem_append_left _ hc)
  · exact (hfound name value h).2 (hslash.trans (List.prefix_append _ _).isInfix)
  · unfold ProcessEnv.home? at hdir
    have hhome : ∀ value, env.process.get? "HOME" = some value → Unmarked value.toList := by
      intro value hvalue c hc
      obtain ⟨e, he, heq⟩ := ProcessEnv.written_of_get? hvalue
      refine (hsettings e (List.mem_append_right _ he)).1 c ?_
      rw [heq]
      exact List.mem_append_right _ (List.mem_cons_of_mem _ hc)
    split at hdir
    · rename_i value hvalue
      split at hdir
      · exact haccount dir hdir
      · cases hdir
        exact hhome _ hvalue
    · exact haccount dir hdir

/-! ### Quotes at work -/

namespace Sample

/-- An environment with a variable and a home directory. -/
def quotingEnv : Environment :=
  ⟨.ofList [("A", "v")], ⟨[("HOME", "/home/me")], none⟩⟩

/-- An axis with a value that refers to the variable. -/
def quotingAxis : Axis :=
  ⟨"feature", ["std", "$A"], by decide⟩

/-- A template whose line quotes dollar signs and tildes, and has some that are not quoted. -/
def quotingTemplate : StepTemplate :=
  ⟨"echo {feature}", none,
    [⟨"echo '$A' \"~\" \\~/x \\$A ~/{feature} \"${A}'\" {feature}", none, some "{feature}.log"⟩]⟩

/-- The step of the line: the axis shows as `value` in the name, and what becomes of it there is
`dir` behind the home directory, `word` on its own and `log` as the name of a file. -/
def quotingStep (value dir word log : String) : Step :=
  ⟨"echo " ++ value, "",
    [⟨"echo", ["$A", "~", "~/x", "$A", dir, "v'", word], .ofText ".", some (.ofText log)⟩]⟩

/-- Only what is not quoted is filled in, values of the axis included. -/
theorem expandTemplate_quoting :
    quotingEnv.Plain ∧ (∀ axis ∈ [quotingAxis], ∀ value ∈ axis.values, Unmarked value.toList) ∧
      (∀ c ∈ quotingTemplate.commands, Unmarked c.run.toList ∧ '#' ∉ c.run.toList) ∧
      (expandTemplate quotingEnv [quotingAxis] quotingTemplate).mapError PlanError.unmarked =
        (expandQuoted quotingEnv [quotingAxis] quotingTemplate).mapError PlanError.unmarked ∧
      expandQuoted quotingEnv [quotingAxis] quotingTemplate =
        .ok [quotingStep "std" "/home/me/std" "std" "std.log",
          quotingStep "$A" "/home/me/v" "v" "v.log"] := by
  have henv : quotingEnv.Plain := Environment.plain_of_written (by decide +kernel) (by decide)
  have haxes : ∀ axis ∈ [quotingAxis], ∀ value ∈ axis.values, Unmarked value.toList := by decide
  have hruns : ∀ c ∈ quotingTemplate.commands, Unmarked c.run.toList ∧ '#' ∉ c.run.toList := by
    decide +kernel
  exact ⟨henv, haxes, hruns, expandTemplate_eq_expandQuoted henv haxes hruns,
    eq_ok_of_toOption (by decide +kernel)⟩

/-- A template with a line. -/
def lineTemplate (run : String) : StepTemplate :=
  ⟨"echo", none, [⟨run, none, none⟩]⟩

/-- The step that echoes a word. -/
def echoStep (word : String) : Step :=
  ⟨"echo", "", [⟨"echo", [word], .ofText ".", none⟩]⟩

/-- An environment with a variable of some name. -/
def namedEnv (name : String) : Environment :=
  ⟨.ofList [(name, "v")], ⟨[], none⟩⟩

/-- An account that lives in a directory. -/
def accountEnv (dir : String) : Environment :=
  ⟨.empty, ⟨[], some dir⟩⟩

/-- A line that names a variable with a tilde behind a backslash, in double quotes. -/
def tildeLine : String :=
  "echo \"$\x7bA\\~B\x7d\""

/-- A line that names a variable with a literal dollar sign. -/
def dollarLine : String :=
  "echo \"$\x7bA\\$B\x7d\""

/-- What is reported when the line with the literal dollar sign names a variable that is missing
under this name. -/
def missingDollar (name : String) : PlanError :=
  .config (.undefinedVariable "echo" "$\x7bA$B\x7d" (Variables.Undefined.message ⟨name⟩))

/-- Without stand-ins in lines and values, planning still finds a variable that the line names with
a literal tilde, or with a literal dollar sign if its own name has the stand-in, it shows the
stand-in when that variable is missing, and it rewrites a home directory. -/
theorem expandTemplate_takes_literals :
    (Unmarked tildeLine.toList ∧ '#' ∉ tildeLine.toList ∧
      (∀ e ∈ (namedEnv "A\\~B").table.entries, Unmarked e.2.toList) ∧
      expandTemplate (namedEnv "A\\~B") [] (lineTemplate tildeLine) = .ok [echoStep "v"] ∧
      (expandQuoted (namedEnv "A\\~B") [] (lineTemplate tildeLine)).toOption = none) ∧
    (Unmarked dollarLine.toList ∧ '#' ∉ dollarLine.toList ∧
      (∀ e ∈ (namedEnv "A\uE000B").table.entries, Unmarked e.2.toList) ∧
      expandTemplate (namedEnv "A\uE000B") [] (lineTemplate dollarLine) = .ok [echoStep "v"] ∧
      (expandQuoted (namedEnv "A\uE000B") [] (lineTemplate dollarLine)).toOption = none ∧
      expandTemplate (namedEnv "A") [] (lineTemplate dollarLine) =
        .error (missingDollar "A\uE000B") ∧
      expandQuoted (namedEnv "A") [] (lineTemplate dollarLine) = .error (missingDollar "A$B")) ∧
    (Unmarked "echo ~".toList ∧ '#' ∉ "echo ~".toList ∧
      expandTemplate (accountEnv "/home/\uE000") [] (lineTemplate "echo ~") =
        .ok [echoStep "/home/$"] ∧
      expandQuoted (accountEnv "/home/\uE000") [] (lineTemplate "echo ~") =
        .ok [echoStep "/home/\uE000"]) :=
  ⟨⟨by decide, by decide, by decide, eq_ok_of_toOption (by decide +kernel), by decide +kernel⟩,
    ⟨by decide, by decide, by decide, eq_ok_of_toOption (by decide +kernel), by decide +kernel,
      eq_error_of_refusal? (by decide +kernel), eq_error_of_refusal? (by decide +kernel)⟩,
    by decide, by decide, eq_ok_of_toOption (by decide +kernel),
    eq_ok_of_toOption (by decide +kernel)⟩

end Sample

end CheckMatrix
