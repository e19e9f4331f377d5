/-
Values are inserted as data.

Lines are cut into words before anything is filled in, so what a step is made of has a shape that
its template alone decides: as many commands, and in each as many words, as are written
(`StepTemplate.wordCounts`).  No value of an axis and no variable changes it.

What a value becomes is exact where only plain text is next to its placeholder.  A value that has no
dollar sign and no stand-in, and no tilde in front, comes through the filling in, through variables
and tildes and through the putting back of literal characters as it is, whatever blanks, quotes,
backslashes, hash signs or braces it has (`expandWord_of_inserts`).  A word with such a placeholder
that stands by itself in its line is one word of the step, at the same place (`expand_inserts`).
-/
import CheckMatrix.Proofs.Plan.Counting
import CheckMatrix.Proofs.Plan.QuotedWords
import CheckMatrix.Proofs.Text.Standing

namespace CheckMatrix

open Marks Piece Words

/-! ### What is inserted where -/

/-- The characters of names, paths and settings. -/
def isSimple (c : Char) : Bool :=
  c.isAlphanum || c = '_' || c = '-' || c = '.' || c = '/' || c = '=' || c = ':' || c = ','

/-- A text of such characters. -/
def IsSimple (text : String) : Prop :=
  ∀ c ∈ text.toList, isSimple c = true

instance (text : String) : Decidable (IsSimple text) :=
  List.decidableBAll (fun c => isSimple c = true) text.toList

/-- A value that means nothing to what comes behind the filling in. -/
structure IsData (value : String) : Prop where
  dollar : '$' ∉ value.toList
  unmarked : Unmarked value.toList
  tilde : value.toList.head? ≠ some '~'

instance (value : String) : Decidable (IsData value) :=
  decidable_of_iff ('$' ∉ value.toList ∧ Unmarked value.toList ∧ value.toList.head? ≠ some '~')
    ⟨fun ⟨hdollar, hunmarked, htilde⟩ => ⟨hdollar, hunmarked, htilde⟩,
      fun ⟨hdollar, hunmarked, htilde⟩ => ⟨hdollar, hunmarked, htilde⟩⟩

/-- A binding puts such a value into a text that is a placeholder between simple texts. -/
inductive Binding.Inserts (b : Binding) : (text filled : String) → Prop
  | between {p name q value : String} (hp : IsSimple p) (hq : IsSimple q)
      (hvalue : b.lookup name = some value) (hdata : IsData value) :
      Inserts b (p ++ "\x7b" ++ name ++ "\x7d" ++ q) (p ++ value ++ q)

theorem ne_of_isSimple {c d : Char} (hc : isSimple c = true) (hd : isSimple d = false) : c ≠ d := by
  rintro rfl
  rw [hc] at hd
  cases hd

theorem isOrdinary_of_isSimple {c : Char} (hc : isSimple c = true) : isOrdinary c = true := by
  have hne := fun d => @ne_of_isSimple c d hc
  simp [isOrdinary, isBlank, hne ' ' (by decide), hne '\t' (by decide), hne '\n' (by decide),
    hne '"' (by decide), hne '\'' (by decide), hne '\\' (by decide), hne '#' (by decide),
    hne '$' (by decide), hne '~' (by decide)]

theorem isSimple_of_isNameChar {c : Char} (hc : isNameChar c = true) : isSimple c = true := by
  simp only [isNameChar, Bool.or_eq_true] at hc
  simp only [isSimple, Bool.or_eq_true]
  tauto

/-- A simple text is data and has no brace in it. -/
theorem IsSimple.isData {text : String} (h : IsSimple text) :
    IsData text ∧ '{' ∉ text.toList := by
  have hne : ∀ d, isSimple d = false → d ∉ text.toList := by
    intro d hd hmem
    exact ne_of_isSimple (h d hmem) hd rfl
  refine ⟨⟨hne '$' (by decide), ?_, fun htilde => ?_⟩, hne '{' (by decide)⟩
  · rintro c hc (rfl | rfl)
    · exact hne _ (by decide) hc
    · exact hne _ (by decide) hc
  · exact hne '~' (by decide) (List.mem_of_head? htilde)

theorem IsData.append {front back : String} (hfront : IsData front) (hback : IsData back) :
    IsData (front ++ back) := by
  refine ⟨?_, ?_, ?_⟩
  · rw [String.toList_append, List.mem_append]
    rintro (hmem | hmem)
    · exact hfront.dollar hmem
    · exact hback.dollar hmem
  · intro c hc
    rw [String.toList_append, List.mem_append] at hc
    obtain hc | hc := hc
    · exact hfront.unmarked c hc
    · exact hback.unmarked c hc
  · rw [String.toList_append]
    have htilde := hfront.tilde
    cases hchars : front.toList with
    | nil => exact hback.tilde
    | cons c rest =>
        rw [hchars] at htilde
        exact htilde

/-! ### One text -/

/-- Data stay as they are when variables and the home directory are filled in. -/
theorem IsData.expandVariables {text : String} (h : IsData text) (env : Environment) :
    expandVariables env text = .ok text := by
  rw [CheckMatrix.expandVariables, Variables.substitute_of_notMem h.dollar]
  exact congrArg Except.ok (if_neg h.tilde)

/-- What is bound has the name of a placeholder. -/
def Binding.Named (b : Binding) : Prop :=
  ∀ name value, b.lookup name = some value → IsName name.toList

/-- A placeholder between simple texts is filled in, and nothing else. -/
theorem Binding.Inserts.interpolate {b : Binding} (hnamed : b.Named) {text filled : String}
    (h : b.Inserts text filled) : interpolate text b = filled := by
  obtain @⟨p, name, q, value, hp, hq, hvalue, hdata⟩ := h
  have hstands : Stands (p ++ "\x7b" ++ name ++ "\x7d" ++ q).toList p.toList name q.toList := by
    refine ⟨by simp, hnamed name value hvalue, fun c hc => ?_⟩
    have hsimple := hp c (List.mem_of_getLast? hc)
    simp [guards, ne_of_isSimple hsimple (d := '$') (by decide),
      ne_of_isSimple hsimple (d := literalDollar) (by decide)]
  have hplain : ∀ text, IsSimple text → CheckMatrix.interpolate text b = text := by
    intro text htext
    exact (unfilled_of_notMem htext.isData.2).interpolate b
  rw [hstands.interpolate b, String.ofList_toList, String.ofList_toList, hplain p hp, hplain q hq,
    hvalue]
  rfl

/-- **A value comes through as it is.**  No later stage looks at what was inserted. -/
theorem expandWord_of_inserts {env : Environment} {t : StepTemplate} {b : Binding}
    (hnamed : b.Named) {text filled : String} (h : b.Inserts text filled) :
    expandWord env t b text = .ok filled := by
  have hdata : IsData filled := by
    obtain ⟨hp, hq, -, hdata⟩ := h
    exact (hp.isData.1.append hdata).append hq.isData.1
  unfold expandWord
  rw [h.interpolate hnamed]
  simp only [hdata.expandVariables env]
  rw [unmark_of_unmarked hdata.unmarked]

/-! ### Commands -/

/-- What the commands of a step have from their template: how many words they are, and what becomes
of words, directories and log files that a value is inserted into. -/
structure Command.Inserted (t : StepTemplate) (b : Binding) (c : CommandTemplate) (made : Command) :
    Prop where
  count : (Words.split c.run).map List.length = some made.words.length
  word : ∀ text filled before after, b.Inserts text filled →
    Alone c.run.toList before text.toList after →
      ∃ front, Words.split (String.ofList before) = some front ∧
        made.words[front.length]? = some filled
  dir : ∀ text filled, b.Inserts text filled → c.dir.or t.dir = some text →
    made.dir = .ofText filled
  log : ∀ text filled, b.Inserts text filled → c.log = some text →
    made.log = some (.ofText filled)

/-- A text that a value is inserted into is one word. -/
theorem Binding.Inserts.isOrdinary {b : Binding} (hnamed : b.Named) {text filled : String}
    (h : b.Inserts text filled) : (∀ c ∈ text.toList, isOrdinary c = true) ∧ text.toList ≠ [] := by
  obtain @⟨p, name, q, value, hp, hq, hvalue, -⟩ := h
  have hname := hnamed name value hvalue
  refine ⟨fun c hc => ?_, by simp⟩
  simp only [String.toList_append, List.mem_append] at hc
  obtain (((hc | hc) | hc) | hc) | hc := hc
  · exact isOrdinary_of_isSimple (hp c hc)
  · obtain rfl := List.mem_singleton.1 hc
    decide
  · exact isOrdinary_of_isSimple (isSimple_of_isNameChar (hname.2 c hc))
  · obtain rfl := List.mem_singleton.1 hc
    decide
  · exact isOrdinary_of_isSimple (hq c hc)

/-- A command has, in the places where its template has one text, another text. -/
structure Command.Carries (t : StepTemplate) (c : CommandTemplate) (made : Command)
    (text filled : String) : Prop where
  word : ∀ before after, Alone c.run.toList before text.toList after →
    ∃ front, Words.split (String.ofList before) = some front ∧
      made.words[front.length]? = some filled
  dir : c.dir.or t.dir = some text → made.dir = .ofText filled
  log : c.log = some text → made.log = some (.ofText filled)

/-- What becomes of a text becomes of it in every place of a command. -/
theorem Command.carries {env : Environment} {t : StepTemplate} {b : Binding} {c : CommandTemplate}
    {split : SplitCommand} {made : Command} (hsplit : SplitCommand.ofTemplate t c = .ok split)
    (hmade : split.instantiate env t b = .ok made) {text filled : String}
    (hordinary : ∀ ch ∈ text.toList, isOrdinary ch = true) (hchars : text.toList ≠ [])
    (hexpand : expandWord env t b text = .ok filled) : Command.Carries t c made text filled := by
  obtain ⟨hwords, hsome, hdir, hlog⟩ := SplitCommand.ofTemplate_eq_ok hsplit
  obtain ⟨hfilled, ⟨dir, hfilledDir, hmadeDir⟩, hfilledLog⟩ :=
    SplitCommand.instantiate_eq_ok hsome hmade
  refine { word := fun before after halone => ?word, dir := fun hwritten => ?dir,
           log := fun hwritten => ?log }
  case word =>
    obtain ⟨front, hfront, hword⟩ := halone.mem_split_mark hordinary hchars hwords
    rw [String.ofList_toList] at hword
    obtain ⟨hbound, hget⟩ := List.getElem?_eq_some_iff.1 hword
    have hmadeBound : front.length < made.words.length := hfilled.length_eq ▸ hbound
    have hexpanded := hfilled.get hbound hmadeBound
    simp only [List.get_eq_getElem, hget, hexpand] at hexpanded
    exact ⟨front, hfront, List.getElem?_eq_some_iff.2 ⟨hmadeBound, (Except.ok.inj hexpanded).symm⟩⟩
  case dir =>
    rw [hdir, hwritten, Option.getD_some, hexpand] at hfilledDir
    cases hfilledDir
    exact hmadeDir
  case log =>
    rw [hlog, hwritten] at hfilledLog
    generalize made.log = log at hfilledLog ⊢
    cases hfilledLog with
    | some htext =>
        obtain ⟨text, htext, rfl⟩ := htext
        rw [hexpand] at htext
        cases htext
        rfl

theorem Command.inserted {env : Environment} {t : StepTemplate} {b : Binding} (hnamed : b.Named)
    {c : CommandTemplate} {split : SplitCommand} {made : Command}
    (hsplit : SplitCommand.ofTemplate t c = .ok split)
    (hmade : split.instantiate env t b = .ok made) : Command.Inserted t b c made := by
  have hcarries : ∀ text filled, b.Inserts text filled →
      Command.Carries t c made text filled := by
    intro text filled hinserts
    obtain ⟨hordinary, hchars⟩ := hinserts.isOrdinary hnamed
    exact Command.carries hsplit hmade hordinary hchars (expandWord_of_inserts hnamed hinserts)
  obtain ⟨hwords, hsome, -⟩ := SplitCommand.ofTemplate_eq_ok hsplit
  refine { count := ?_,
           word := fun text filled before after hinserts =>
             (hcarries text filled hinserts).word before after,
           dir := fun text filled hinserts => (hcarries text filled hinserts).dir,
           log := fun text filled hinserts => (hcarries text filled hinserts).log }
  have hfilled := (SplitCommand.instantiate_eq_ok hsome hmade).1
  rw [← length_split_mark, hwords, Option.map_some, hfilled.length_eq]

/-! ### Steps -/

/-- The number of words of each command of a template. -/
def StepTemplate.wordCounts (t : StepTemplate) : List Nat :=
  t.commands.map fun c => ((Words.split c.run).getD []).length

/-- What a step has from its template. -/
structure Step.Inserted (t : StepTemplate) (b : Binding) (step : Step) : Prop where
  name : ∀ text filled, b.Inserts text filled → t.label = text → step.name = filled
  counts : step.commands.map (·.words.length) = t.wordCounts
  commands : List.Forall₂ (Command.Inserted t b) t.commands step.commands

/-- An axis that a template refers to has the name of a placeholder. -/
theorem StepTemplate.isName_of_mem {t : StepTemplate} {name : String} (h : name ∈ t.referencedAxes) :
    IsName name.toList := by
  obtain ⟨piece, hpiece, hname⟩ := List.mem_filterMap.1 (t.keeps_referencedAxes.only name h)
  obtain ⟨text, -, hpiece⟩ := List.mem_flatMap.1 hpiece
  cases piece with
  | plain c => cases hname
  | axis found =>
      cases hname
      obtain ⟨front, back, hscan⟩ := List.append_of_mem hpiece
      exact (stands_of_scan hscan).named

/-- The combinations of a template have values for placeholders only. -/
theorem StepTemplate.named_of_mem {t : StepTemplate} {axes : List Axis} {b : Binding}
    (h : b ∈ t.bindingsOf axes) : b.Named := by
  intro name value hvalue
  obtain ⟨before, after, hb, -⟩ := List.lookup_eq_some_iff.1 hvalue
  have hname : name ∈ b.map Prod.fst := hb ▸ by simp
  rw [t.names_of_mem_bindingsOf h] at hname
  obtain ⟨axis, haxis, rfl⟩ := List.mem_map.1 hname
  exact t.isName_of_mem (t.mem_referencedAxes_of_mem_axesOf haxis)

theorem StepTemplate.Instantiated.inserted {env : Environment} {t : StepTemplate} {b : Binding}
    (hnamed : b.Named) {step : Step} (h : t.Instantiated env b step) : step.Inserted t b := by
  obtain ⟨hname, hcommands⟩ := h.made
  have hall : List.Forall₂ (Command.Inserted t b) t.commands step.commands := by
    refine hcommands.imp ?_
    rintro c made ⟨split, hsplit, hmade⟩
    exact Command.inserted hnamed hsplit hmade
  refine ⟨fun text filled hinserts hlabel => ?_, ?_, hall⟩
  · rw [hname, hlabel, hinserts.interpolate hnamed]
  · refine map_eq_of_forall₂ (fun c made hmade => ?_) hall
    obtain ⟨words, hwords, hcount⟩ := Option.map_eq_some_iff.1 hmade.count
    rw [hwords, ← hcount]
    rfl

/-- **Axis values are inserted as data.**  Every step of a template has the commands of the template
and in each of them as many words as are written there, whatever values and variables there are.  A
word that stands by itself in a line, a directory or a log file that is a placeholder between simple
texts has the very value between these texts, in one piece and at the same place. -/
theorem expand_inserts {env : Environment} {axes : List Axis} {templates : List StepTemplate}
    {steps : List Step} (h : expand env axes templates = .ok steps) :
    ∃ blocks, steps = blocks.flatten ∧
      List.Forall₂ (fun t block =>
        List.Forall₂ (fun b step => Step.Inserted t b step)
          ((t.bindingsOf axes).take (wordCount (t.axesOf axes)).toNat) block) templates blocks := by
  obtain ⟨blocks, hsteps, hblocks⟩ := expandFrom_blocks h
  refine ⟨blocks, hsteps, hblocks.imp fun t block hblock => ?_⟩
  obtain ⟨-, -, hmade⟩ := expandTemplate_take hblock
  rw [toNat_wordCount]
  have hnamed : ∀ b ∈ (t.bindingsOf axes).take (countedCombinations (t.axesOf axes)), b.Named :=
    fun b hb => t.named_of_mem (List.mem_of_mem_take hb)
  refine ((List.forall₂_and_left _ _).2 ⟨hnamed, hmade⟩).imp ?_
  rintro b step ⟨hb, hstep⟩
  exact hstep.inserted hb

namespace Sample

/-- A value with blanks, quotes, a backslash, a hash sign, a line break, and a placeholder of its
own. -/
def wild : String :=
  "a  b'c\"d\\ #\n\x7bv\x7d"

/-- A comment, a quoted word, a placeholder within a setting, and a variable. -/
def settingTemplate : StepTemplate :=
  ⟨"try {v}", none,
    [⟨"# named\n'x y' --name={v},end $OPTS", some "sub/{v}", some "logs/{v}.txt"⟩]⟩

/-- The step for the value, with a variable that has blanks in it. -/
def settingStep : Step :=
  ⟨"try " ++ wild, "", [⟨"x y", ["--name=" ++ wild ++ ",end", "-a -b"], .ofText ("sub/" ++ wild),
    some (.ofText ("logs/" ++ wild ++ ".txt"))⟩]⟩

/-- The value is in the second of three words, in the directory and in the log file. -/
theorem expand_inserts_wild :
    expand (.mk .empty ⟨[("OPTS", "-a -b")], none⟩) [⟨"v", [wild], by decide⟩] [settingTemplate] =
        .ok [settingStep] ∧
      settingTemplate.wordCounts = [3] ∧
      ∃ made, settingStep.commands = [made] ∧ made.words.length = 3 ∧
        (∃ front, Words.split "# named\n'x y' " = some front ∧
          made.words[front.length]? = some ("--name=" ++ wild ++ ",end")) ∧
        made.dir = .ofText ("sub/" ++ wild) ∧
        made.log = some (.ofText ("logs/" ++ wild ++ ".txt")) := by
  have hsteps : expand (.mk .empty ⟨[("OPTS", "-a -b")], none⟩) [⟨"v", [wild], by decide⟩]
      [settingTemplate] = .ok [settingStep] := eq_ok_of_toOption (by decide +kernel)
  have hcounts : settingTemplate.wordCounts = [3] := by decide +kernel
  refine ⟨hsteps, hcounts, ?_⟩
  obtain ⟨blocks, hblocks, hmade⟩ := expand_inserts hsteps
  obtain ⟨block, others, hblock, hothers, rfl⟩ := List.forall₂_cons_left_iff.1 hmade
  obtain rfl := List.forall₂_nil_left_iff.1 hothers
  have hbindings : (settingTemplate.bindingsOf [⟨"v", [wild], by decide⟩]).take
      (wordCount (settingTemplate.axesOf [⟨"v", [wild], by decide⟩])).toNat = [[("v", wild)]] := by
    decide +kernel
  rw [hbindings, ← List.append_nil block] at hblock
  rw [List.flatten_cons, List.flatten_nil] at hblocks
  rw [← hblocks] at hblock
  obtain ⟨hstep, -⟩ := List.forall₂_cons.1 hblock
  obtain ⟨hmade, -⟩ := List.forall₂_cons.1 hstep.commands
  have hvalue : ([("v", wild)] : Binding).lookup "v" = some wild := rfl
  have hdata : IsData wild := by decide +kernel
  have hinserts := fun p q hp hq => Binding.Inserts.between (p := p) (q := q) hp hq hvalue hdata
  refine ⟨_, rfl, ?_, ?_, ?_, ?_⟩
  · exact (List.cons.inj (hstep.counts.trans hcounts)).1
  · refine hmade.word "--name={v},end" _ "# named\n'x y' ".toList " $OPTS".toList ?_ (by decide +kernel)
    exact hinserts "--name=" ",end" (by decide +kernel) (by decide +kernel)
  · exact hmade.dir "sub/{v}" _ (hinserts "sub/" "" (by decide +kernel) (by decide +kernel)) rfl
  · exact hmade.log "logs/{v}.txt" _
      (hinserts "logs/" ".txt" (by decide +kernel) (by decide +kernel)) rfl

end Sample

end CheckMatrix
