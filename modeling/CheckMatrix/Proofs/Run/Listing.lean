/-
A listing foretells a run.

Listing a plan and running it are two ways to go on from one place, `opening`, where a check has
read its configuration and found the directory of its project.  From there both make the same plan.
A run that has a plan always ends with a result when its report is written to memory, so nothing but
planning tells the errors of the two apart, and planning is the same.

What the listing says is kept apart from how it is worded: a `Listing` holds names and command lines,
and `Plan.listing_eq` finds the text of one in what is written.  Headings are decided one step at a
time there, from the group of the step before, while a `Listing` has its steps in groups.
-/
import CheckMatrix.Checking
import CheckMatrix.Proofs.Run.FailureLogs
import CheckMatrix.Proofs.Run.Verdict
import Mathlib.Data.List.Chain

namespace CheckMatrix

/-! ### What a listing says -/

/-- A step as it is listed: its name, and the line and the directory of each of its commands. -/
structure ListedStep where
  name : String
  commands : List (String × Path)

/-- Steps under one heading. -/
structure ListedGroup where
  name : String
  steps : List ListedStep

/-- All that a listing says. -/
structure Listing where
  groups : List ListedGroup
  total : Nat

/-- The lines for a step. -/
def ListedStep.text (v : Voice) (s : ListedStep) : String :=
  line ("  - " ++ s.name) ++ String.join (s.commands.map fun c =>
    line ("      " ++ v.paint .dimmed "$" ++ " " ++ c.1 ++ "  " ++
      v.paint .dimmed ("(" ++ c.2.shown ++ ")")))

namespace ListedGroup

/-- The line above the steps of a group. -/
def heading (v : Voice) (g : ListedGroup) : String :=
  line (v.paint .boldCyan (v.wording.planGroup g.name))

/-- The lines for the steps of a group. -/
def body (v : Voice) (g : ListedGroup) : String :=
  String.join (g.steps.map (ListedStep.text v))

/-- The lines for a group. -/
def text (v : Voice) (g : ListedGroup) : String :=
  g.heading v ++ g.body v

end ListedGroup

namespace Listing

/-- The steps in order. -/
def steps (l : Listing) : List ListedStep :=
  l.groups.flatMap ListedGroup.steps

/-- The command lines in order. -/
def lines (l : Listing) : List String :=
  l.steps.flatMap fun s => s.commands.map Prod.fst

/-- The listing as it is written. -/
def text (v : Voice) (l : Listing) : String :=
  String.join (l.groups.map (ListedGroup.text v)) ++
    line (v.paint .bold (v.wording.planTotal l.total))

end Listing

/-! ### The listing of a plan -/

/-- A step as the listing of its plan has it. -/
def Step.listed (s : Step) : ListedStep :=
  ⟨s.name, s.commands.map fun c => (c.displayLine, c.dir)⟩

/-- A step in front of some groups: it joins the first of them if that is its own. -/
def Step.inFront (s : Step) : List ListedGroup → List ListedGroup
  | [] => [⟨s.group, [s.listed]⟩]
  | g :: others =>
    if g.name = s.group then ⟨s.group, s.listed :: g.steps⟩ :: others
    else ⟨s.group, [s.listed]⟩ :: g :: others

/-- Steps in groups, neighbours of the same group together. -/
def grouped : List Step → List ListedGroup
  | [] => []
  | s :: rest => s.inFront (grouped rest)

/-- What the listing of a plan says. -/
def Plan.listed (p : Plan) : Listing :=
  ⟨grouped p.steps, p.steps.length⟩

theorem listStep_eq (v : Voice) (s : Step) : listStep v s = s.listed.text v := by
  unfold listStep ListedStep.text Step.listed
  rw [List.map_map]
  rfl

/-- The lines for some groups behind a step; the first heading may be given already. -/
def textBehind (v : Voice) (group : Option String) : List ListedGroup → String
  | [] => ""
  | g :: others =>
    (if group = some g.name then "" else g.heading v) ++ g.body v ++
      String.join (others.map (ListedGroup.text v))

theorem textBehind_none (v : Voice) (groups : List ListedGroup) :
    textBehind v none groups = String.join (groups.map (ListedGroup.text v)) := by
  cases groups with
  | nil => rfl
  | cons g others =>
      rw [List.map_cons, String.join_cons]
      rfl

/-- A step is listed in front of the others, under the heading of its group. -/
theorem textBehind_inFront (v : Voice) (group : Option String) (s : Step)
    (groups : List ListedGroup) :
    textBehind v group (s.inFront groups) =
      (if group = some s.group then ""
        else line (v.paint .boldCyan (v.wording.planGroup s.group))) ++
      s.listed.text v ++ textBehind v (some s.group) groups := by
  cases groups with
  | nil => simp [Step.inFront, textBehind, ListedGroup.heading, ListedGroup.body]
  | cons g others =>
      by_cases hsame : g.name = s.group
      · simp [Step.inFront, textBehind, ListedGroup.heading, ListedGroup.body, hsame,
          String.append_assoc]
      · have hother : some s.group ≠ some g.name := fun h => hsame (Option.some.inj h).symm
        simp [Step.inFront, textBehind, ListedGroup.heading, ListedGroup.body, ListedGroup.text,
          hsame, hother, String.append_assoc]

theorem listSteps_eq (v : Voice) (steps : List Step) :
    ∀ group, listSteps v group steps = textBehind v group (grouped steps) := by
  induction steps with
  | nil => exact fun _ => rfl
  | cons s rest ih =>
      intro group
      rw [listSteps, ih, listStep_eq, grouped, textBehind_inFront]

/-- **What is written is the text of the listing.** -/
theorem Plan.listing_eq (v : Voice) (p : Plan) : p.listing v = p.listed.text v := by
  unfold Plan.listing Listing.text
  rw [listSteps_eq, textBehind_none]
  rfl

example : Plan.listing ⟨.english, false⟩ ⟨["workspace", "docs"], [
      ⟨"format", "workspace", [⟨"cargo", ["fmt"], .ofText "/w", none⟩]⟩,
      ⟨"test", "workspace", [⟨"cargo", ["test", "a b"], .ofText "/w", some (.ofText "/log")⟩]⟩,
      ⟨"book", "docs", [⟨"mdbook", ["test"], .ofText "/w/book", none⟩]⟩]⟩ =
    "Group workspace\n" ++
    "  - format\n" ++
    "      $ cargo fmt  (/w)\n" ++
    "  - test\n" ++
    "      $ cargo test 'a b'  (/w)\n" ++
    "Group docs\n" ++
    "  - book\n" ++
    "      $ mdbook test  (/w/book)\n" ++
    "3 check steps\n" := by decide +kernel

/-- What becomes of the steps of the groups one by one, they are the steps that were grouped. -/
theorem grouped_flatMap {α : Type} (f : String → ListedStep → α) (steps : List Step) :
    ((grouped steps).flatMap fun g => g.steps.map (f g.name)) =
      steps.map fun s => f s.group s.listed := by
  induction steps with
  | nil => rfl
  | cons s rest ih =>
      rw [grouped, List.map_cons, ← ih]
      cases grouped rest with
      | nil => rfl
      | cons g others =>
          by_cases hsame : g.name = s.group
          · simp [Step.inFront, hsame]
          · simp [Step.inFront, hsame]

theorem grouped_filled {steps : List Step} : ∀ g ∈ grouped steps, g.steps ≠ [] := by
  induction steps with
  | nil => simp [grouped]
  | cons s rest ih =>
      rw [grouped]
      revert ih
      cases grouped rest with
      | nil => simp [Step.inFront]
      | cons g others =>
          intro ih
          by_cases hsame : g.name = s.group
          · simpa [Step.inFront, hsame] using fun g' hg' => ih g' (List.mem_cons_of_mem g hg')
          · simpa [Step.inFront, hsame] using ih

/-- Neighbouring groups have different names. -/
theorem grouped_apart (steps : List Step) :
    (grouped steps).IsChain fun g h => g.name ≠ h.name := by
  induction steps with
  | nil => exact .nil
  | cons s rest ih =>
      rw [grouped]
      cases hrest : grouped rest with
      | nil => exact .singleton _
      | cons g others =>
          rw [hrest] at ih
          by_cases hsame : g.name = s.group
          · rw [Step.inFront, if_pos hsame]
            rw [List.isChain_cons] at ih ⊢
            exact ⟨fun h hh => hsame ▸ ih.1 h hh, ih.2⟩
          · rw [Step.inFront, if_neg hsame]
            exact List.isChain_cons_cons.2 ⟨fun h => hsame h.symm, ih⟩

theorem Plan.listed_names (p : Plan) :
    p.listed.steps.map ListedStep.name = p.steps.map Step.name := by
  have h := grouped_flatMap (fun _ s => s.name) p.steps
  rw [← List.map_flatMap] at h
  exact h

theorem Plan.listed_lines (p : Plan) :
    p.listed.lines = (p.steps.flatMap Step.commands).map Command.displayLine := by
  have h := congrArg List.flatten
    (grouped_flatMap (fun _ s => s.commands.map Prod.fst) p.steps)
  rw [← List.map_flatMap, ← List.flatMap_def, ← List.flatMap_def] at h
  rw [List.map_flatMap]
  refine h.trans (List.flatMap_congr fun s _ => ?_)
  exact List.map_map

/-! ### What a run does -/

/-- What a listing says before a run is what the run comes to, `after` being the session it leaves
and `summary` its result. -/
structure Listing.Foretells (listing : Listing) (k : Conductor) (p : Plan) (s after : Session)
    (summary : RunSummary) : Prop where
  /-- No heading stands above nothing, and none is repeated. -/
  filled : ∀ g ∈ listing.groups, g.steps ≠ []
  apart : listing.groups.IsChain fun g h => g.name ≠ h.name
  /-- Every step of the plan is listed under its group with its commands, in order. -/
  placed : (listing.groups.flatMap fun g => g.steps.map fun step => (g.name, step)) =
    p.steps.map fun step => (step.group, step.listed)
  /-- The steps listed are those that have an outcome in the end. -/
  recorded : listing.steps.map ListedStep.name = summary.ledger.names
  total : listing.total = summary.ledger.size
  /-- If the run is not cancelled and every command that it hands over succeeds, the lines listed
  are those of the commands handed over. -/
  handed : ∀ commands, after.commands = s.commands ++ commands → after.cancelled = false →
    (∀ t ∈ k.runner.tries s.commands s.tree commands, t.succeeded = true) →
      listing.lines = commands.map Command.displayLine

namespace Conductor

variable {k : Conductor} {p : Plan} {s : Session} {sink : Sink} {attempts : List Attempt}
  {l : Ledger} {r : Report}

/-- Cleaning up and reporting do not cancel a run. -/
theorem Performed.cancelled (h : k.Performed p s sink attempts l r) :
    (k.perform p (k.begun p s) sink).1.cancelled = (k.ended p s).cancelled := by
  obtain ⟨shown, hperformed⟩ := h.session
  rw [hperformed]

/-- When every command succeeds, a run that is not cancelled hands over all of its plan. -/
theorem Performed.all_handed (h : k.Performed p s sink attempts l r)
    (hopen : (k.ended p s).cancelled = false)
    (hgood : ∀ t ∈ attempts.flatMap Attempt.tries, t.succeeded = true) :
    (attempts.flatMap Attempt.tries).map Try.command = p.steps.flatMap Step.commands := by
  rw [← h.executed.steps]
  refine handed_of_all_tried fun a ha => ?_
  exact (h.executed.attempted.upToFailure hopen a ha).all_of_succeeded
    fun t ht => hgood t (List.mem_flatMap.2 ⟨a, ha, ht⟩)

/-- **The listing of a plan foretells what performing the plan comes to.** -/
theorem Performed.foretold (h : k.Performed p s sink attempts l r) :
    p.listed.Foretells k p s (k.perform p (k.begun p s) sink).1 ⟨l, r⟩ where
  filled := grouped_filled
  apart := grouped_apart p.steps
  placed := grouped_flatMap Prod.mk p.steps
  recorded := by rw [p.listed_names, h.executed.names]
  total := by
    have hlength := congrArg List.length h.executed.names
    rw [Ledger.names, List.length_map, List.length_map] at hlength
    exact hlength.symm
  handed := by
    intro commands hcommands hopen hgood
    rw [h.cancelled] at hopen
    -- the commands behind the earlier ones are those of the attempts
    rw [h.commands, h.handed.commands] at hcommands
    obtain rfl := List.append_cancel_left hcommands
    rw [h.handed.answers] at hgood
    rw [p.listed_lines, h.all_handed hopen hgood]

end Conductor

/-! ### Where the two modes part -/

/-- A check that has read its configuration and found the directory of its project. -/
structure Opened where
  voice : Voice
  config : Config
  root : Path
  session : Session

/-- What a check does before it makes a plan, or how it ends when it does not get there. -/
def opening (v : Voice) (o : RunOptions) (t : FileTree) : Except Ending Opened :=
  match readConfig t o.config with
  | .error e => .error ⟨v, [], t, .error e⟩
  | .ok (config, file) =>
    let v := { v with locale := .matching (o.lang.getD config.language) }
    match t.canonical o.projectDir with
    | .error cause => .error ⟨v, [], t, .error (.projectDirNotFound o.projectDir cause)⟩
    | .ok root => .ok ⟨v, config, root, (preface v root file config).foldl Session.say (.start t)⟩

/-- Who conducts the run of a check. -/
def Workbench.conductor (b : Workbench) (x : Opened) : Conductor where
  runner := b.runner x.voice x.config.env
  process := b.process
  narration := x.voice
  reporting := x.voice

/-- The run of a check. -/
def Workbench.run (b : Workbench) (selection : Selection) (x : Opened) :
    Session × Sink × Except RunError RunSummary :=
  (b.conductor x).run x.config selection x.root x.session .unlimited

/-- A check lists or runs its plan, if it gets as far as making one. -/
theorem check_eq (b : Workbench) (v : Voice) (o : RunOptions) (t : FileTree) :
    check b v o t =
      match opening v o t with
      | .error ending => ending
      | .ok x =>
        if o.list then listPlan b x.voice x.config o.selection x.root x.session
        else runPlan b x.voice x.config o.selection x.root x.session := by
  unfold check opening
  cases readConfig t o.config with
  | error e => rfl
  | ok read =>
      simp only
      cases t.canonical o.projectDir with
      | error cause => rfl
      | ok root => rfl

theorem foldl_say_tree (lines : List String) : ∀ s : Session,
    (lines.foldl Session.say s).tree = s.tree := by
  induction lines with
  | nil => exact fun _ => rfl
  | cons text rest ih => exact fun s => ih (s.say text)

/-- A check ends with an error before its plan or goes on to it, and changes no file. -/
theorem opening_cases (v : Voice) (o : RunOptions) (t : FileTree) :
    (∃ voice e, opening v o t = .error ⟨voice, [], t, .error e⟩) ∨
      ∃ x, opening v o t = .ok x ∧ x.session.tree = t := by
  unfold opening
  cases readConfig t o.config with
  | error e => exact .inl ⟨_, _, rfl⟩
  | ok read =>
      simp only
      cases t.canonical o.projectDir with
      | error cause => exact .inl ⟨_, _, rfl⟩
      | ok root => exact .inr ⟨_, rfl, foldl_say_tree _ _⟩

variable {b : Workbench} {v : Voice} {config : Config} {selection : Selection} {root : Path}
  {s : Session} {p : Plan}

/-- Nothing but planning can go wrong in a listing. -/
theorem listPlan_error_iff {e : CheckError} :
    (listPlan b v config selection root s).result = .error e ↔
      ∃ cause, plan b.process s.tree config selection root = .error cause ∧
        e = .run (.ofPlan cause) := by
  unfold listPlan
  cases plan b.process s.tree config selection root with
  | error cause => simp [eq_comm]
  | ok p => simp

/-- Where planning succeeds a run has a result, which the listing foretells. -/
theorem Workbench.run_of_planned {x : Opened}
    (hp : plan b.process x.session.tree x.config selection x.root = .ok p) :
    ∃ summary, (b.run selection x).2.2 = .ok summary ∧
      p.listed.Foretells (b.conductor x) p x.session (b.run selection x).1 summary := by
  obtain ⟨attempts, l, r, hran⟩ :=
    (b.conductor x).perform_performed (plan_wf hp) x.session .unlimited
  have hrun : b.run selection x =
      (b.conductor x).perform p ((b.conductor x).begun p x.session) .unlimited :=
    Conductor.run_of_plan hp
  refine ⟨⟨l, r⟩, ?_, ?_⟩
  · rw [hrun]
    exact hran.result_iff.2 ⟨rfl, Conductor.takes_of_unlimited rfl _, rfl⟩
  · rw [hrun]
    exact hran.foretold

/-- A check that runs its plan ends as the run does. -/
theorem runPlan_result (b : Workbench) (selection : Selection) (x : Opened) :
    (runPlan b x.voice x.config selection x.root x.session).result =
      match (b.run selection x).2.2 with
      | .error cause => .error (.run cause)
      | .ok summary => .ok summary.exitCode := by
  generalize hrun : b.run selection x = answer
  obtain ⟨after, sink, result⟩ := answer
  unfold Workbench.run Workbench.conductor at hrun
  unfold runPlan
  simp only [hrun]
  cases result with
  | error cause => rfl
  | ok summary => rfl

/-- Nothing but planning can go wrong in a run. -/
theorem runPlan_error_iff {x : Opened} {e : CheckError} :
    (runPlan b x.voice x.config selection x.root x.session).result = .error e ↔
      ∃ cause, plan b.process x.session.tree x.config selection x.root = .error cause ∧
        e = .run (.ofPlan cause) := by
  rw [runPlan_result]
  cases hp : plan b.process x.session.tree x.config selection x.root with
  | error cause =>
      rw [Workbench.run, Conductor.run_of_refused (k := b.conductor x) hp]
      simp [eq_comm]
  | ok p =>
      obtain ⟨summary, hran, -⟩ := Workbench.run_of_planned hp
      rw [hran]
      simp

/-- What the listing of a check has to do with the run of the same check. -/
structure DryRun (b : Workbench) (v : Voice) (o : RunOptions) (t : FileTree)
    (listed ran : Ending) : Prop where
  /-- Listing changes no file, -/
  tree : listed.tree = t
  /-- and runs no command: who would run them makes no difference. -/
  idle : ∀ runner, check ⟨b.process, runner⟩ v { o with list := true } t = listed
  /-- The listing fails when the run does, with the same error. -/
  error_iff : ∀ e, listed.result = .error e ↔ ran.result = .error e
  /-- Otherwise a plan is made in both modes, and the listing foretells the run. -/
  faithful : ∀ code, listed.result = .ok code → ∃ x p summary,
    opening v o t = .ok x ∧ plan b.process t x.config o.selection x.root = .ok p ∧
      ran = runPlan b x.voice x.config o.selection x.root x.session ∧
      (b.run o.selection x).2.2 = .ok summary ∧
      ∃ listing : Listing,
        listed.shown = x.session.shown ++ Transcript.ofText .out (listing.text x.voice) ∧
          listing.Foretells (b.conductor x) p x.session (b.run o.selection x).1 summary

/-- **A dry run is faithful.** -/
theorem check_dryRun (b : Workbench) (v : Voice) (o : RunOptions) (t : FileTree) :
    DryRun b v o t (check b v { o with list := true } t) (check b v { o with list := false } t) := by
  have hlisted : ∀ b : Workbench, check b v { o with list := true } t =
      match opening v o t with
      | .error ending => ending
      | .ok x => listPlan b x.voice x.config o.selection x.root x.session :=
    fun b => check_eq b v { o with list := true } t
  have hran : check b v { o with list := false } t =
      match opening v o t with
      | .error ending => ending
      | .ok x => runPlan b x.voice x.config o.selection x.root x.session :=
    check_eq b v { o with list := false } t
  rcases opening_cases v o t with ⟨voice, e, hopening⟩ | ⟨x, hopening, htree⟩
  · simp only [hopening] at hlisted hran
    rw [hlisted, hran]
    exact ⟨rfl, fun runner => hlisted _, fun _ => Iff.rfl, fun code h => by cases h⟩
  · simp only [hopening] at hlisted hran
    rw [hlisted, hran]
    refine ⟨?_, ?_, ?_, ?_⟩
    · unfold listPlan
      split
      · exact htree
      · exact htree
    · intro runner
      rw [hlisted]
      rfl
    · intro e
      rw [listPlan_error_iff, runPlan_error_iff]
    · intro code hcode
      unfold listPlan at hcode ⊢
      cases hp : plan b.process x.session.tree x.config o.selection x.root with
      | error cause =>
          rw [hp] at hcode
          cases hcode
      | ok p =>
          obtain ⟨summary, hsummary, hforetold⟩ := Workbench.run_of_planned hp
          refine ⟨x, p, summary, hopening, htree ▸ hp, rfl, hsummary, p.listed, ?_, hforetold⟩
          simp only [p.listing_eq]

end CheckMatrix
