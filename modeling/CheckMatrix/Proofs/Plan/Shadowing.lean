/-
What the table sets, the process cannot change.

Two processes that agree on all variables that the table leaves open give every variable the same
value.  Filling in a text asks an environment for nothing else, except that a tilde in front is the
home directory, and this always comes from the process.  So under both processes the same templates
are planned, with the same reports otherwise, and their steps are the same but for the home
directory at the front of a word, a directory or a log file (`SameButHome`).  They are the same
altogether when the two homes are, as they are if the table does not set one, or when no text asks
for it (`expand_shadowed`).

Two expansions of the same templates are compared text by text: a relation between what becomes of
single texts is one between the steps (`expand_alike`).
-/
import CheckMatrix.Proofs.Plan.Blocks
import CheckMatrix.Proofs.Plan.QuotedWords

namespace CheckMatrix

open Marks

/-! ### Steps of the same templates -/

section Alike

variable {R : String → String → Prop}

/-- Two commands with texts that are related. -/
structure Command.Alike (R : String → String → Prop) (c c' : Command) : Prop where
  words : List.Forall₂ R c.words c'.words
  dir : ∃ text text', R text text' ∧ c.dir = .ofText text ∧ c'.dir = .ofText text'
  log : Option.Rel (fun log log' => ∃ text text', R text text' ∧ log = Path.ofText text ∧
    log' = Path.ofText text') c.log c'.log

/-- Two steps of one name whose commands have texts that are related. -/
structure Step.Alike (R : String → String → Prop) (s s' : Step) : Prop where
  name : s.name = s'.name
  group : s.group = s'.group
  commands : List.Forall₂ (Command.Alike R) s.commands s'.commands

theorem Command.Alike.eq {c c' : Command} (h : c.Alike (· = ·) c') : c = c' := by
  obtain ⟨program, args, dir, log⟩ := c
  obtain ⟨program', args', dir', log'⟩ := c'
  obtain ⟨hwords, ⟨text, _, rfl, rfl, rfl⟩, hlog⟩ := h
  obtain ⟨rfl, rfl⟩ := List.cons.inj (List.forall₂_eq_eq_eq ▸ hwords)
  cases hlog with
  | none => rfl
  | some htexts =>
      obtain ⟨text, _, rfl, rfl, rfl⟩ := htexts
      rfl

theorem Step.Alike.eq {s s' : Step} (h : s.Alike (· = ·) s') : s = s' := by
  obtain ⟨name, group, commands⟩ := s
  obtain ⟨name', group', commands'⟩ := s'
  obtain ⟨rfl, rfl, hcommands⟩ := h
  have heq : List.Forall₂ (· = ·) commands commands' := hcommands.imp fun _ _ => Command.Alike.eq
  rw [List.forall₂_eq_eq_eq] at heq
  rw [heq]

/-- Steps that have the same texts are the same. -/
theorem Beside.eq_of_alike {x y : Except PlanError (List Step)}
    (h : Beside id (List.Forall₂ (Step.Alike (· = ·))) x y) : x = y := by
  cases h with
  | refused heq => exact congrArg Except.error heq
  | done halike =>
      have heq : List.Forall₂ (· = ·) _ _ := halike.imp fun _ _ => Step.Alike.eq
      rw [List.forall₂_eq_eq_eq] at heq
      exact congrArg Except.ok heq

theorem names_of_alike {steps steps' : List Step} (h : List.Forall₂ (Step.Alike R) steps steps') :
    steps.map Step.name = steps'.map Step.name :=
  (map_eq_of_forall₂ (fun _ _ hstep => hstep.name.symm) h).symm

variable (hrefl : ∀ text, R text text) {env env' : Environment} {t : StepTemplate} {b : Binding}

include hrefl

theorem SplitCommand.instantiate_alike {c : SplitCommand}
    (h : ∀ text ∈ c.texts, Beside id R (expandWord env t b text) (expandWord env' t b text)) :
    Beside id (Command.Alike R) (c.instantiate env t b) (c.instantiate env' t b) := by
  obtain ⟨hwords, hplaces⟩ := List.forall_mem_append.1 h
  obtain ⟨hdir, hlog⟩ := List.forall_mem_cons.1 hplaces
  unfold SplitCommand.instantiate
  refine (Beside.mapM_same c.words hwords).bind fun words words' hfilled => ?_
  refine hdir.bind fun dir dir' hfilledDir => ?_
  refine (Beside.optionMapM_same c.log fun log hmem => hlog log (by simpa using hmem)).bind
    fun log log' hfilledLog => ?_
  have hall : List.Forall₂ R (words.headD "" :: words.tail) (words'.headD "" :: words'.tail) := by
    cases hfilled with
    | nil => exact .cons (hrefl _) .nil
    | cons hfirst hrest => exact .cons hfirst hrest
  refine .done ⟨hall, ⟨dir, dir', hfilledDir, rfl, rfl⟩, ?_⟩
  exact optionRel_map (fun text text' htexts => ⟨text, text', htexts, rfl, rfl⟩) hfilledLog

theorem StepTemplate.instantiate_alike
    (h : ∀ text ∈ t.fillings,
      Beside id R (expandWord env t b text) (expandWord env' t b text)) :
    Beside id (Step.Alike R) (t.instantiate env (t.commands.map t.cutCommand) b)
      (t.instantiate env' (t.commands.map t.cutCommand) b) := by
  have hwithin : ∀ c ∈ t.commands.map t.cutCommand,
      Beside id (Command.Alike R) (c.instantiate env t b) (c.instantiate env' t b) := by
    intro c hc
    refine c.instantiate_alike hrefl fun text htext => h text ?_
    rw [← t.flatMap_texts]
    exact List.mem_flatMap.2 ⟨c, hc, htext⟩
  refine (Beside.mapM_same _ hwithin).bind fun commands commands' halike => ?_
  exact .done ⟨rfl, rfl, halike⟩

theorem expandTemplate_alike {axes : List Axis}
    (h : ∀ b ∈ t.bindingsOf axes, ∀ text ∈ t.fillings,
      Beside id R (expandWord env t b text) (expandWord env' t b text)) :
    Beside id (List.Forall₂ (Step.Alike R)) (expandTemplate env axes t)
      (expandTemplate env' axes t) := by
  cases hcommands : t.splitCommands with
  | error e =>
      unfold expandTemplate
      rw [hcommands]
      exact .refused rfl
  | ok commands =>
      cases hused : t.usedAxes axes with
      | error e =>
          unfold expandTemplate
          rw [hcommands, hused]
          exact .refused rfl
      | ok used =>
          have hcuts := t.cuts_of_splitCommands hcommands
          obtain ⟨hknown, hfilled, -⟩ := StepTemplate.usedAxes_eq_ok_iff.1 hused
          rw [expandTemplate_eq hcuts hknown hfilled, expandTemplate_eq hcuts hknown hfilled]
          have hsteps := Beside.mapM_same (t.countedBindings axes) fun b hb =>
            t.instantiate_alike hrefl (h b (List.mem_of_mem_take hb))
          exact (Beside.refl _).bind fun _ _ _ => hsteps.checked fun _ => rfl

/-- **What becomes of the texts one by one becomes of the steps.** -/
theorem expand_alike {axes : List Axis} {templates : List StepTemplate}
    (h : ∀ t ∈ templates, ∀ b ∈ t.bindingsOf axes, ∀ text ∈ t.fillings,
      Beside id R (expandWord env t b text) (expandWord env' t b text)) :
    Beside id (List.Forall₂ (Step.Alike R)) (expand env axes templates)
      (expand env' axes templates) := by
  unfold expand
  generalize ([] : List String) = taken
  induction templates generalizing taken with
  | nil => exact .done .nil
  | cons t rest ih =>
      obtain ⟨ht, hrest⟩ := List.forall_mem_cons.1 h
      refine (expandTemplate_alike hrefl ht).bind fun steps steps' halike => ?_
      have hnames : takeNames taken steps = takeNames taken steps' := by
        unfold takeNames
        rw [names_of_alike halike]
      rw [hnames]
      refine (Beside.refl (checked (takeNames taken steps'))).bind fun names _ heq => ?_
      obtain rfl := heq
      refine (ih hrest names).bind fun others others' hothers => ?_
      exact .done (List.rel_append halike hothers)

end Alike

/-! ### The home directory -/

/-- Two texts that are the same, or are the same behind a home directory. -/
inductive SameButHome (home home' : Option String) : String → String → Prop
  | same (text : String) : SameButHome home home' text text
  | homed {rest : String} (h : rest = "" ∨ rest.toList.head? = some '/') :
      SameButHome home home' (unmark (home.getD "~") ++ rest) (unmark (home'.getD "~") ++ rest)

/-- A filled-in text asks for the home directory: it begins with a tilde, and once its variables are
expanded, the end of the text or a slash is behind the tilde. -/
structure Environment.BehindHome (env : Environment) (text : String) (rest : List Char) : Prop where
  tilde : text.toList.head? = some '~'
  expanded : Variables.substitute env.lookup text = .ok (String.ofList ('~' :: rest))
  ends : rest = [] ∨ rest.head? = some '/'

/-- A filled-in text begins with a tilde that stands for the home directory. -/
def Environment.AsksHome (env : Environment) (text : String) : Prop :=
  ∃ rest, env.BehindHome text rest

/-- A tilde is replaced where a slash or the end of the text is behind it, and nowhere else. -/
theorem Variables.expandTilde_homed (home : Option String) {rest : List Char}
    (h : rest = [] ∨ rest.head? = some '/') :
    expandTilde home (String.ofList ('~' :: rest)) = home.getD "~" ++ String.ofList rest := by
  unfold expandTilde
  cases home with
  | none =>
      rw [String.toList_ofList, ← List.singleton_append, String.ofList_append]
      rfl
  | some dir =>
      simp only [String.toList_ofList, if_pos h]
      rfl

theorem Variables.expandTilde_of_not {text : String}
    (h : ∀ rest, text = String.ofList ('~' :: rest) → ¬ (rest = [] ∨ rest.head? = some '/'))
    (home : Option String) : expandTilde home text = text := by
  unfold expandTilde
  split
  · rename_i rest dir htext
    rw [if_neg (h rest (by rw [← htext, String.ofList_toList]))]
  · rfl

theorem Environment.BehindHome.shadowed {env env' : Environment} {text : String} {rest : List Char}
    (h : env.BehindHome text rest) (hlookup : env.lookup = env'.lookup) :
    env'.BehindHome text rest :=
  ⟨h.tilde, hlookup ▸ h.expanded, h.ends⟩

section Texts

variable {env : Environment} (t : StepTemplate) (b : Binding) (text : String)

/-- What asks for the home directory has it in front of what is behind the tilde. -/
theorem expandWord_of_behindHome {rest : List Char}
    (h : env.BehindHome (interpolate text b) rest) :
    expandWord env t b text =
      .ok (unmark (env.process.home?.getD "~") ++ unmark (String.ofList rest)) := by
  unfold expandWord expandVariables
  simp only [h.expanded, if_pos h.tilde, Variables.expandTilde_homed _ h.ends, unmark_append]

variable {env' : Environment} (hlookup : env.lookup = env'.lookup)

include hlookup

/-- A text becomes the same in two environments with the same variables, unless it asks for a home
directory that they do not share. -/
theorem expandWord_shadowed
    (h : env.process.home? = env'.process.home? ∨ ¬ env.AsksHome (interpolate text b)) :
    expandWord env t b text = expandWord env' t b text := by
  by_cases hasks : env.AsksHome (interpolate text b)
  · have hhome := h.resolve_right fun hnot => hnot hasks
    obtain ⟨rest, hrest⟩ := hasks
    rw [expandWord_of_behindHome t b text hrest,
      expandWord_of_behindHome t b text (hrest.shadowed hlookup), hhome]
  · unfold expandWord expandVariables
    rw [← hlookup]
    cases hexpanded : Variables.substitute env.lookup (interpolate text b) with
    | error u => simp only [hexpanded]
    | ok expanded =>
        by_cases htilde : (interpolate text b).toList.head? = some '~'
        · have hnot : ∀ rest, expanded = String.ofList ('~' :: rest) →
              ¬ (rest = [] ∨ rest.head? = some '/') := by
            rintro rest rfl hends
            exact hasks ⟨rest, htilde, hexpanded, hends⟩
          simp only [hexpanded, Variables.expandTilde_of_not hnot]
        · simp only [hexpanded, if_neg htilde]

/-- In any case it becomes the same but for the home directory. -/
theorem expandWord_sameButHome :
    Beside id (SameButHome env.process.home? env'.process.home?) (expandWord env t b text)
      (expandWord env' t b text) := by
  by_cases hasks : env.AsksHome (interpolate text b)
  · obtain ⟨rest, hrest⟩ := hasks
    rw [expandWord_of_behindHome t b text hrest,
      expandWord_of_behindHome t b text (hrest.shadowed hlookup)]
    refine .done (.homed ?_)
    cases rest with
    | nil => exact .inl rfl
    | cons c rest =>
        obtain rfl : c = '/' := by simpa using hrest.ends
        rw [unmark, String.toList_ofList, String.toList_ofList]
        exact .inr rfl
  · rw [expandWord_shadowed t b text hlookup (.inr hasks)]
    cases expandWord env' t b text with
    | error e => exact .refused rfl
    | ok filled => exact .done (.same filled)

end Texts

/-! ### Two processes -/

/-- Processes that agree on what the table leaves open give every variable the same value. -/
theorem Environment.lookup_shadowed {table : EnvTable} {p p' : ProcessEnv}
    (hagree : ∀ name, table.get? name = none → p.get? name = p'.get? name) :
    Environment.lookup ⟨table, p⟩ = Environment.lookup ⟨table, p'⟩ := by
  funext name
  unfold Environment.lookup
  cases hname : table.get? name with
  | some value => rfl
  | none => exact hagree name hname

/-- Processes of one account have the same home directory if they agree on the variable for it. -/
theorem ProcessEnv.home?_eq {p p' : ProcessEnv} (haccount : p.accountHome = p'.accountHome)
    (h : p.get? "HOME" = p'.get? "HOME") : p.home? = p'.home? := by
  unfold ProcessEnv.home?
  rw [h, haccount]

/-- **The table shadows the process, except for the home directory.**  Of two processes of one
account that agree on every variable that the table does not set, each fills in a text like the
other, unless the text asks for the home directory; then each puts its own in front of the same
rest.  So the same templates are expanded, for the same reasons others are not, and the steps are
the same but for a home directory at the front of a word, a directory or a log file.  They are the
same altogether if the table does not set the variable for it, if both processes do so alike, or if
no text asks for it. -/
theorem expand_shadowed {table : EnvTable} {p p' : ProcessEnv} (axes : List Axis)
    (templates : List StepTemplate) (haccount : p.accountHome = p'.accountHome)
    (hagree : ∀ name, table.get? name = none → p.get? name = p'.get? name) :
    (∀ t b text,
      (¬ Environment.AsksHome ⟨table, p⟩ (interpolate text b) →
        expandWord ⟨table, p⟩ t b text = expandWord ⟨table, p'⟩ t b text) ∧
      ∀ rest, Environment.BehindHome ⟨table, p⟩ (interpolate text b) rest →
        expandWord ⟨table, p⟩ t b text =
          .ok (unmark (p.home?.getD "~") ++ unmark (String.ofList rest)) ∧
        expandWord ⟨table, p'⟩ t b text =
          .ok (unmark (p'.home?.getD "~") ++ unmark (String.ofList rest))) ∧
    Beside id (List.Forall₂ (Step.Alike (SameButHome p.home? p'.home?)))
      (expand ⟨table, p⟩ axes templates) (expand ⟨table, p'⟩ axes templates) ∧
    (table.get? "HOME" = none ∨ p.get? "HOME" = p'.get? "HOME" ∨
        (∀ t ∈ templates, ∀ b ∈ t.bindingsOf axes, ∀ text ∈ t.fillings,
          ¬ Environment.AsksHome ⟨table, p⟩ (interpolate text b)) →
      expand ⟨table, p⟩ axes templates = expand ⟨table, p'⟩ axes templates) := by
  have hlookup := Environment.lookup_shadowed hagree
  refine ⟨fun t b text => ⟨fun hnot => ?_, fun rest hrest => ⟨?_, ?_⟩⟩, ?_, fun h => ?_⟩
  · exact expandWord_shadowed t b text hlookup (.inr hnot)
  · exact expandWord_of_behindHome t b text hrest
  · exact expandWord_of_behindHome t b text (hrest.shadowed hlookup)
  · exact expand_alike .same fun t _ b _ text _ => expandWord_sameButHome t b text hlookup
  · refine (expand_alike (fun _ => rfl) fun t ht b hb text htext => ?_).eq_of_alike
    have hhome : p.home? = p'.home? ∨ ¬ Environment.AsksHome ⟨table, p⟩ (interpolate text b) := by
      rcases h with hnone | hsame | hasks
      · exact .inl (ProcessEnv.home?_eq haccount (hagree _ hnone))
      · exact .inl (ProcessEnv.home?_eq haccount hsame)
      · exact .inr (hasks t ht b hb text htext)
    rw [expandWord_shadowed t b text hlookup hhome]
    exact .refl _

/-! ### Two processes at work -/

/-- A setting without an equals sign in it has a value under its own name only. -/
theorem ProcessEnv.valueUnder?_eq_none {name : String} {setting : String × String}
    (hne : name ≠ setting.1) (hname : '=' ∉ setting.1.toList) (hvalue : '=' ∉ setting.2.toList) :
    valueUnder? name setting = none := by
  unfold valueUnder?
  refine if_neg fun hprefix => hne ?_
  obtain ⟨rest, hrest⟩ := List.isPrefixOf_iff_prefix.1 hprefix
  rw [List.append_assoc, List.singleton_append] at hrest
  exact String.toList_inj.1 ((List.append_cons_inj_of_notMem hname hvalue).1 hrest.symm).1.symm

theorem ProcessEnv.get?_cons_of_ne {name : String} {setting : String × String}
    (hne : name ≠ setting.1) (hname : '=' ∉ setting.1.toList) (hvalue : '=' ∉ setting.2.toList)
    (vars : List (String × String)) (home : Option String) :
    get? ⟨setting :: vars, home⟩ name = get? ⟨vars, home⟩ name := by
  unfold get?
  rw [List.findSome?_cons, valueUnder?_eq_none hne hname hvalue]

namespace Sample

/-- A table that sets a directory and the variable for the home directory. -/
def shadowTable : EnvTable :=
  .ofList [("HOME", "/configured"), ("OUT", "/out")]

/-- A process that sets both, and one more. -/
def shadowedProcess (home out : String) : ProcessEnv :=
  ⟨[("HOME", home), ("OUT", out), ("CC", "gcc")], none⟩

theorem shadowedProcess_eq {home out : String} (hhome : '=' ∉ home.toList) (hout : '=' ∉ out.toList)
    {name : String} (h : shadowTable.get? name = none) :
    (shadowedProcess home out).get? name = ProcessEnv.get? ⟨[("CC", "gcc")], none⟩ name := by
  have hfirst : name ≠ "HOME" := by
    rintro rfl
    exact absurd h (by decide)
  have hsecond : name ≠ "OUT" := by
    rintro rfl
    exact absurd h (by decide)
  have hplain : '=' ∉ "HOME".toList ∧ '=' ∉ "OUT".toList := by decide
  rw [shadowedProcess, ProcessEnv.get?_cons_of_ne hfirst hplain.1 hhome,
    ProcessEnv.get?_cons_of_ne hsecond hplain.2 hout]

/-- A template that refers to variables of the table and of the process, the home directory among
them by its name. -/
def shadowTemplate : StepTemplate :=
  ⟨"build", some "$OUT", [⟨"$CC \"$\x7bOUT\x7d\" $HOME/x '~'", none, some "$OUT/$CC.log"⟩]⟩

/-- The step of the template. -/
def shadowStep : Step :=
  ⟨"build", "", [⟨"gcc", ["/out", "/configured/x", "~"], .ofText "/out",
    some (.ofText "/out/gcc.log")⟩]⟩

/-- Both processes plan the same step, and steps that differ in the home directory only. -/
theorem expand_shadowed_build :
    (shadowedProcess "/home/a" "/a").accountHome = (shadowedProcess "/home/b" "/b").accountHome ∧
      (∀ name, shadowTable.get? name = none →
        (shadowedProcess "/home/a" "/a").get? name = (shadowedProcess "/home/b" "/b").get? name) ∧
      (∀ t ∈ [shadowTemplate], ∀ b ∈ t.bindingsOf [], ∀ text ∈ t.fillings,
        ¬ Environment.AsksHome ⟨shadowTable, shadowedProcess "/home/a" "/a"⟩
          (interpolate text b)) ∧
      expand ⟨shadowTable, shadowedProcess "/home/a" "/a"⟩ [] [shadowTemplate] = .ok [shadowStep] ∧
      expand ⟨shadowTable, shadowedProcess "/home/b" "/b"⟩ [] [shadowTemplate] = .ok [shadowStep] ∧
      Beside id (List.Forall₂ (Step.Alike (SameButHome (some "/home/a") (some "/home/b"))))
        (expand ⟨shadowTable, shadowedProcess "/home/a" "/a"⟩ []
          [shadowTemplate, lineTemplate "echo ~"])
        (expand ⟨shadowTable, shadowedProcess "/home/b" "/b"⟩ []
          [shadowTemplate, lineTemplate "echo ~"]) := by
  have hagree : ∀ name, shadowTable.get? name = none →
      (shadowedProcess "/home/a" "/a").get? name = (shadowedProcess "/home/b" "/b").get? name := by
    intro name hname
    rw [shadowedProcess_eq (by decide) (by decide) hname,
      shadowedProcess_eq (by decide) (by decide) hname]
  have hnot : ∀ t ∈ [shadowTemplate], ∀ b ∈ t.bindingsOf [], ∀ text ∈ t.fillings,
      ¬ Environment.AsksHome ⟨shadowTable, shadowedProcess "/home/a" "/a"⟩
        (interpolate text b) := by
    have htilde : ∀ t ∈ [shadowTemplate], ∀ b ∈ t.bindingsOf [], ∀ text ∈ t.fillings,
        (interpolate text b).toList.head? ≠ some '~' := by decide +kernel
    rintro t ht b hb text htext ⟨rest, hrest⟩
    exact htilde t ht b hb text htext hrest.tilde
  have hsteps : expand ⟨shadowTable, shadowedProcess "/home/a" "/a"⟩ [] [shadowTemplate] =
      .ok [shadowStep] := eq_ok_of_toOption (by decide +kernel)
  have haccount : (shadowedProcess "/home/a" "/a").accountHome =
      (shadowedProcess "/home/b" "/b").accountHome := rfl
  have hsame := (expand_shadowed [] [shadowTemplate] haccount hagree).2.2 (.inr (.inr hnot))
  have halike := (expand_shadowed [] [shadowTemplate, lineTemplate "echo ~"] haccount hagree).2.1
  have hhome : (shadowedProcess "/home/a" "/a").home? = some "/home/a" := by decide +kernel
  have hhome' : (shadowedProcess "/home/b" "/b").home? = some "/home/b" := by decide +kernel
  rw [hhome, hhome'] at halike
  exact ⟨haccount, hagree, hnot, hsteps, hsame.symm.trans hsteps, halike⟩

/-- A tilde is the home directory of the process though the table sets the variable for it. -/
theorem expand_takes_home :
    (shadowedProcess "/home/a" "/a").accountHome = (shadowedProcess "/home/b" "/a").accountHome ∧
      (∀ name, shadowTable.get? name = none →
        (shadowedProcess "/home/a" "/a").get? name = (shadowedProcess "/home/b" "/a").get? name) ∧
      expand ⟨shadowTable, shadowedProcess "/home/a" "/a"⟩ [] [lineTemplate "echo ~"] =
        .ok [echoStep "/home/a"] ∧
      expand ⟨shadowTable, shadowedProcess "/home/b" "/a"⟩ [] [lineTemplate "echo ~"] =
        .ok [echoStep "/home/b"] ∧
      echoStep "/home/a" ≠ echoStep "/home/b" := by
  refine ⟨rfl, fun name hname => ?_, eq_ok_of_toOption (by decide +kernel),
    eq_ok_of_toOption (by decide +kernel), by decide +kernel⟩
  rw [shadowedProcess_eq (by decide) (by decide) hname,
    shadowedProcess_eq (by decide) (by decide) hname]

end Sample

end CheckMatrix
