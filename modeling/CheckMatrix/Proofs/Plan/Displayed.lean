/-
A command that is shown reads back as itself.

The line that shows a command keeps all its dollar signs and tildes literal, so when it is planned,
marked stand-ins are all that is left of them.  Such a word has no placeholder and no variable and
begins with no tilde: filling it in puts the characters back and does nothing else, under every
binding and in every environment (`expandWord_literally`).  A template with such a line makes steps
that run the command (`expandTemplate_displayLine`).

The characters that the planner uses itself are excluded: NUL, which has no written form, the
stand-ins, and the brace, since a placeholder is one also where it is quoted.
-/
import CheckMatrix.Expansion
import CheckMatrix.Proofs.Text.Filling
import CheckMatrix.Proofs.Text.Written

namespace CheckMatrix

open Marks

/-! ### Words without active signs -/

theorem Words.active_notMem_literally {c : Char} (hc : c = '$' ∨ c = '~') (word : List Char) :
    Glyph.active c ∉ Words.literally word := by
  intro hmem
  obtain ⟨d, -, heq⟩ := List.mem_map.1 hmem
  obtain ⟨rfl, hliteral⟩ := Glyph.mk.inj heq
  rcases hc with rfl | rfl <;> cases hliteral

theorem Spells.dollar_notMem {behind : Bool} {gs : List Glyph} {cs : List Char}
    (h : Spells behind gs cs) (hdollar : Glyph.active '$' ∉ gs) : '$' ∉ cs := by
  induction h with
  | nil => exact List.not_mem_nil
  | cons hwrites _ ih =>
      refine List.not_mem_cons_of_ne_of_not_mem (fun heq => ?_) ?_
      · exact List.ne_of_not_mem_cons hdollar (hwrites.eq_dollar_iff.2 heq.symm).symm
      · exact ih (List.not_mem_of_not_mem_cons hdollar)

/-- **A word without active signs and braces is filled in with what it says**, whatever there is to
fill in. -/
theorem expandWord_literally {word : List Char} {text : String}
    (h : Spells false (Words.literally word) text.toList) (hbrace : '{' ∉ word) (env : Environment)
    (t : StepTemplate) (binding : Binding) :
    expandWord env t binding text = .ok (String.ofList word) := by
  have hchars : text.toList.map Marks.restore = word := by
    rw [h.restore, Words.literally, List.map_map]
    exact List.map_id word
  have hunfilled : Unfilled text :=
    unfilled_of_notMem fun hmem => hbrace (hchars ▸ List.mem_map_of_mem hmem)
  have hdollar : '$' ∉ text.toList :=
    h.dollar_notMem (Words.active_notMem_literally (.inl rfl) word)
  have htilde : text.toList.head? ≠ some '~' := fun hhead =>
    Words.active_notMem_literally (.inr rfl) word (List.mem_of_head? (h.head_tilde_iff.2 hhead))
  unfold expandWord expandVariables
  simp only [hunfilled.interpolate, Variables.substitute_of_notMem hdollar, if_neg htilde]
  rw [unmark, hchars]

/-! ### The line of a command -/

/-- A character without a meaning of its own to the planner, quoted or not. -/
def Showable (d : Char) : Prop :=
  d ≠ '\x00' ∧ d ≠ '{' ∧ ¬ IsStandIn d

instance (d : Char) : Decidable (Showable d) :=
  inferInstanceAs (Decidable (_ ∧ _))

/-- A command whose words have showable characters only. -/
def Command.HasLine (c : Command) : Prop :=
  ∀ word ∈ c.words, ∀ d ∈ word.toList, Showable d

instance (c : Command) : Decidable c.HasLine :=
  @List.decidableBAll String (fun word => ∀ d ∈ word.toList, Showable d)
    (fun word => List.decidableBAll Showable word.toList) c.words

/-- Texts that spell the words of a command, all signs being literal. -/
def Command.SpelledBy (c : Command) (texts : List String) : Prop :=
  List.Forall₂ (fun word text => Spells false (Words.literally word.toList) text.toList) c.words
    texts

section Line

variable {c : Command} (hc : c.HasLine)

include hc

theorem Command.HasLine.toList_displayLine :
    c.displayLine.toList = Words.writtenLine (c.words.map String.toList) := by
  have hnul : ∀ word ∈ c.words, '\x00' ∉ word.toList :=
    fun word hword hmem => (hc word hword _ hmem).1 rfl
  obtain ⟨line, hjoin, hline⟩ := Words.join?_eq_writtenLine hnul
  rw [Command.displayLine, hjoin]
  exact hline

/-- The line is written with nothing but the characters of the words, blanks, quotes and
backslashes. -/
theorem Command.HasLine.forall_displayLine {p : Char → Prop} (hblank : p ' ')
    (hquotes : p '\'' ∧ p '"' ∧ p '\\') (h : ∀ word ∈ c.words, ∀ d ∈ word.toList, p d) :
    ∀ d ∈ c.displayLine.toList, p d := by
  rw [hc.toList_displayLine]
  refine Words.forall_writtenLine hblank hquotes fun word hword => ?_
  obtain ⟨text, htext, rfl⟩ := List.mem_map.1 hword
  exact h text htext

/-- Marked and split, the line has texts that spell the words of the command. -/
theorem Command.HasLine.split_displayLine :
    ∃ texts, Words.split (mark c.displayLine) = some texts ∧ c.SpelledBy texts := by
  have hunmarked : Unmarked c.displayLine.toList :=
    hc.forall_displayLine (by decide) (by decide) fun word hword d hd => (hc word hword d hd).2.2
  have huncommented : Words.Uncommented .gap c.displayLine.toList := by
    rw [hc.toList_displayLine]
    exact Words.uncommented_writtenLine _
  have hwords := Words.split_mark hunmarked (huncommented.settled (by decide))
  have hsplit : Words.splitGlyphs c.displayLine =
      some (c.words.map fun word => Words.literally word.toList) := by
    rw [Words.splitGlyphs, hc.toList_displayLine, Words.glyphsFrom_writtenLine, List.map_map]
    rfl
  rw [hsplit] at hwords
  generalize Words.split (mark c.displayLine) = result at hwords
  cases hwords with
  | some hspells => exact ⟨_, rfl, List.forall₂_map_left_iff.1 hspells⟩

end Line

/-! ### Templates with the line -/

/-- The step of a template whose only command, written as `line`, runs `c`. -/
def StepTemplate.running (env : Environment) (t : StepTemplate) (line : CommandTemplate)
    (c : Command) (binding : Binding) : Except ConfigError Step := do
  let dir ← expandWord env t binding ((line.dir.or t.dir).getD ".")
  let log ← line.log.mapM (expandWord env t binding)
  return ⟨interpolate t.label binding, "", [⟨c.program, c.args, .ofText dir, log.map Path.ofText⟩]⟩

section Template

variable {c : Command} {t : StepTemplate} {line : CommandTemplate} {texts : List String}

theorem StepTemplate.splitCommands_displayLine (hcommands : t.commands = [line])
    (hrun : line.run = c.displayLine) (hsplit : Words.split (mark c.displayLine) = some texts)
    (hspells : c.SpelledBy texts) :
    t.splitCommands = .ok [⟨texts, (line.dir.or t.dir).getD ".", line.log⟩] := by
  have hone : SplitCommand.ofTemplate t line =
      .ok ⟨texts, (line.dir.or t.dir).getD ".", line.log⟩ := by
    unfold SplitCommand.ofTemplate
    rw [hrun, hsplit]
    cases hspells
    rfl
  unfold StepTemplate.splitCommands
  rw [hcommands, List.mapM_cons, hone]
  rfl

/-- Only the directory and the log file are left to be refused. -/
theorem StepTemplate.instantiate_displayLine (hc : c.HasLine)
    (hspells : c.SpelledBy texts) (env : Environment) (binding : Binding) :
    t.instantiate env [⟨texts, (line.dir.or t.dir).getD ".", line.log⟩] binding =
      t.running env line c binding := by
  have hwords : texts.mapM (expandWord env t binding) = .ok c.words := by
    have hbrace : ∀ word ∈ c.words, '{' ∉ word.toList :=
      fun word hword hmem => (hc word hword _ hmem).2.1 rfl
    refine mapM_eq_ok_iff.2 (((List.forall₂_and_left _ _).2 ⟨hbrace, hspells⟩).flip.imp ?_)
    rintro text word ⟨hword, hspell⟩
    rw [expandWord_literally hspell hword, String.ofList_toList]
  unfold StepTemplate.instantiate StepTemplate.running
  rw [List.mapM_cons, SplitCommand.instantiate, hwords]
  cases expandWord env t binding ((line.dir.or t.dir).getD ".") with
  | error e => rfl
  | ok dir =>
      cases line.log.mapM (expandWord env t binding) with
      | error e => rfl
      | ok log => rfl

/-- **A template with the line makes steps that run the command**, one for each combination. -/
theorem expandTemplate_displayLine (hc : c.HasLine) (hcommands : t.commands = [line])
    (hrun : line.run = c.displayLine) (env : Environment) (axes : List Axis) :
    expandTemplate env axes t = (do
      let used ← checked (t.usedAxes axes)
      askRoom (countedCombinations used)
      checked <| (Cursor.walk used (countedCombinations used) (.first used)).mapM fun cursor =>
        t.running env line c (cursor.binding used)) := by
  obtain ⟨texts, hsplit, hspells⟩ := hc.split_displayLine
  unfold expandTemplate
  rw [StepTemplate.splitCommands_displayLine hcommands hrun hsplit hspells]
  simp only [checked_ok, ok_bind, StepTemplate.instantiate_displayLine hc hspells]

/-- A template without placeholders uses no axis. -/
theorem StepTemplate.usedAxes_of_unfilled (hplain : ∀ text ∈ t.texts, Unfilled text)
    (axes : List Axis) : t.usedAxes axes = .ok [] := by
  have hreferenced : t.referencedAxes = [] := by
    have hnone : (t.texts.flatMap Piece.scan).filterMap Piece.axis? = [] := by
      refine List.filterMap_eq_nil_iff.2 fun p hp => ?_
      obtain ⟨text, htext, hscan⟩ := List.mem_flatMap.1 hp
      exact hplain text htext p hscan
    rw [StepTemplate.referencedAxes, hnone]
    rfl
  unfold StepTemplate.usedAxes
  simp [hreferenced]

theorem StepTemplate.unfilled_texts (hc : c.HasLine) (hcommands : t.commands = [line])
    (hrun : line.run = c.displayLine)
    (hplain : ∀ text ∈ t.label :: (t.dir.toList ++ (line.dir.toList ++ line.log.toList)),
      Unfilled text) : ∀ text ∈ t.texts, Unfilled text := by
  have hline : Unfilled c.displayLine := by
    refine unfilled_of_notMem fun hmem => ?_
    exact hc.forall_displayLine (p := (· ≠ '{')) (by decide) (by decide)
      (fun word hword d hd => (hc word hword d hd).2.1) _ hmem rfl
  intro text htext
  rw [StepTemplate.texts, hcommands, List.flatMap_singleton, CommandTemplate.texts, hrun] at htext
  by_cases heq : text = c.displayLine
  · exact heq ▸ hline
  · refine hplain text ?_
    simpa [heq] using htext

/-- One step has a fresh name. -/
theorem expand_of_one {env : Environment} {axes : List Axis} {step : Except ConfigError Step}
    (h : expandTemplate env axes t = checked (step.map ([·]))) :
    expand env axes [t] = checked (step.map ([·])) := by
  unfold expand expandFrom
  rw [h]
  cases step <;> rfl

/-- Where no directory is given it is the current one. -/
theorem expandWord_dot (env : Environment) (t : StepTemplate) (binding : Binding) :
    expandWord env t binding "." = .ok "." := by
  have hspells : Spells false (Words.literally ['.']) ".".toList :=
    .cons (.active (by decide)) .nil
  exact expandWord_literally hspells (by decide) env t binding

/-- **A command that is shown reads back as itself.** -/
theorem expand_displayLine (hc : c.HasLine) (hcommands : t.commands = [line])
    (hrun : line.run = c.displayLine)
    (hplain : ∀ text ∈ t.label :: (t.dir.toList ++ (line.dir.toList ++ line.log.toList)),
      Unfilled text) (env : Environment) (axes : List Axis) :
    expand env axes [t] = checked ((t.running env line c []).map ([·])) ∧
      (t.dir = none → line.dir = none → line.log = none →
        expand env axes [t] = .ok [⟨t.label, "", [⟨c.program, c.args, .ofText ".", none⟩]⟩]) := by
  have husedAxes := StepTemplate.usedAxes_of_unfilled
    (StepTemplate.unfilled_texts hc hcommands hrun hplain) axes
  have hwalk : Cursor.walk [] (countedCombinations []) (.first []) = [[]] := rfl
  have hroom : askRoom (countedCombinations []) = .ok () := rfl
  have hone : expand env axes [t] = checked ((t.running env line c []).map ([·])) := by
    refine expand_of_one ?_
    rw [expandTemplate_displayLine hc hcommands hrun, husedAxes, checked_ok, ok_bind, hroom,
      ok_bind]
    simp only [hwalk, List.mapM_cons, List.mapM_nil, Cursor.binding]
    cases t.running env line c [] <;> rfl
  refine ⟨hone, fun hdir hline hlog => ?_⟩
  have hlabel : interpolate t.label [] = t.label := (hplain _ List.mem_cons_self).interpolate []
  have hplace : (line.dir.or t.dir).getD "." = "." := by
    rw [hline, hdir]
    rfl
  rw [hone, StepTemplate.running, hplace, expandWord_dot, hlog, hlabel]
  rfl

end Template

/-! ### A line with everything in it -/

namespace Sample

/-- A command with all the signs that quoting is about, and an empty word. -/
def hardCommand : Command :=
  ⟨"my tool", ["", "$HOME", "~", "#", "it's", "\"a\\b\"", "^", "a^$'!", "first\nsecond", "\t\\$~"],
    .ofText ".", none⟩

/-- A template that has nothing but the line. -/
def hardTemplate : StepTemplate :=
  ⟨"hard", none, [⟨hardCommand.displayLine, none, none⟩]⟩

/-- The line reads back where its variable and a home directory are known. -/
theorem expand_displayLine_hard :
    hardCommand.HasLine ∧ (∀ text ∈ ["hard"], Unfilled text) ∧
      expand ⟨.ofList [("HOME", "/root")], ⟨[("HOME", "/home/me")], none⟩⟩ [] [hardTemplate] =
        .ok [⟨"hard", "", [hardCommand]⟩] := by
  have hline : hardCommand.HasLine := by decide +kernel
  have hlabel : ∀ text ∈ ["hard"], Unfilled text := by decide +kernel
  exact ⟨hline, hlabel, (expand_displayLine hline rfl rfl hlabel _ []).2 rfl rfl rfl⟩

end Sample

end CheckMatrix
