/-
What a cancellation does to a run.

A run can be cancelled before it starts or while any of its commands runs.  Nothing else is worth
telling apart: the cancellation is looked at in front of a step and in front of a command, and if it
comes between the two, the step ends in front of its first command, as it does when the cancellation
came earlier.

The run is compared with the same one never cancelled.  `Session.Agrees` ties the two together, and
every step either keeps them tied, with the same outcome, or was cut short (`Compared`).  A step
that was cut short leaves a cancelled session, where every later step is recorded as cancelled, so
the steps fall into those before the cut and those behind it.

That the flag of the summary marks the cut needs one thing of the runner.  It is read off the exit
codes again, so no command may exit with the code that stands for a cancelled step.
-/
import CheckMatrix.Proofs.Run.Isolation
import CheckMatrix.Proofs.Run.Reporting

namespace CheckMatrix

/-! ### The run that is never cancelled -/

/-- The runner that answers the same and never cancels. -/
def Runner.undisturbed (runner : Runner) : Runner :=
  fun past tree c => { runner past tree c with cancels := false }

/-- The conductor with that runner. -/
def Conductor.undisturbed (k : Conductor) : Conductor :=
  { k with runner := k.runner.undisturbed }

/-- The session before a cancellation. -/
def Session.undisturbed (s : Session) : Session :=
  { s with cancelled := false }

/-- A runner cannot tell the first session from the second, which is not cancelled. -/
structure Session.Agrees (s t : Session) : Prop where
  commands : s.commands = t.commands
  tree : s.tree = t.tree
  opened : t.cancelled = false

/-- How a step ends beside the same step never cancelled: either nothing is different yet, or it
was cut short. -/
inductive Compared (x y : Session × StepOutcome) : Prop
  | same (outcome : x.2 = y.2) (session : x.1.Agrees y.1)
  | cut (outcome : x.2.isCancelled = true) (session : x.1.cancelled = true)

section Comparison

variable {s t s' t' : Session}

theorem Session.agrees_undisturbed (s : Session) : s.Agrees s.undisturbed := ⟨rfl, rfl, rfl⟩

/-- What is only said or noted in either session makes no difference. -/
theorem Session.Agrees.idle (runner : Runner) (h : s.Agrees t) (hs : s.Handed runner [] s')
    (ht : t.Handed runner [] t') : s'.Agrees t' where
  commands := by rw [hs.commands, ht.commands, h.commands]
  tree := by
    rw [hs.tree, ht.tree]
    exact h.tree
  opened := by
    rw [ht.cancelled, List.any_nil, Bool.or_false]
    exact h.opened

theorem Compared.later (runner : Runner) {o o' : StepOutcome} (h : Compared (s, o) (t, o'))
    (hs : s.Handed runner [] s') (ht : t.Handed runner [] t') : Compared (s', o) (t', o') := by
  cases h with
  | same houtcome hsession => exact .same houtcome (hsession.idle runner hs ht)
  | cut houtcome hsession =>
      refine .cut houtcome ?_
      rw [hs.cancelled]
      exact Bool.or_eq_true_iff.2 (Or.inl hsession)

theorem handOver_agrees (runner : Runner) (v : Voice) (c : Command) (h : s.Agrees t)
    (hopen : s.cancelled = false) :
    (handOver runner v c s).1.Agrees (handOver runner.undisturbed v c t).1 := by
  have hs := handOver_handed runner v c hopen
  have ht := handOver_handed runner.undisturbed v c h.opened
  refine ⟨?_, ?_, ?_⟩
  · rw [hs.commands, ht.commands, h.commands]
    rfl
  · rw [hs.tree, ht.tree, h.commands, h.tree]
    rfl
  · rw [ht.cancelled, h.opened]
    rfl

theorem runCommands_compared (runner : Runner) (v : Voice) (name : String)
    (commands : List Command) : ∀ (log : Option Path) {s t : Session}, s.Agrees t →
      Compared (runCommands runner v name commands log s)
        (runCommands runner.undisturbed v name commands log t) := by
  induction commands with
  | nil =>
      intro log s t h
      exact .same rfl h
  | cons c rest ih =>
      intro log s t h
      by_cases hcancelled : s.cancelled = true
      · rw [runCommands_cons_of_cancelled hcancelled]
        exact .cut rfl hcancelled
      · have hopen : s.cancelled = false := by simpa using hcancelled
        have hanswer : (runner.undisturbed t.commands t.tree c).outcome =
            (runner s.commands s.tree c).outcome := by
          rw [h.commands, h.tree]
          rfl
        have hnext := handOver_agrees runner v c h hopen
        rw [runCommands_cons hopen, runCommands_cons h.opened, hanswer]
        split
        · exact ih _ hnext
        · exact .same rfl hnext

theorem runStep_compared (runner : Runner) (v : Voice) (step : Step) (h : s.Agrees t) :
    Compared (runStep runner v step s) (runStep runner.undisturbed v step t) := by
  have hbegun := h.idle runner (s.say_handed (v.paint .blue (v.wording.stepStarted step.name)))
    (t.say_handed (v.paint .blue (v.wording.stepStarted step.name)))
  have hcommands := runCommands_compared runner v step.name step.commands none hbegun
  exact hcommands.later runner (sayOutcome_handed ..) (sayOutcome_handed ..)

end Comparison

namespace Conductor

variable {k : Conductor} {s t : Session}

/-- One step keeps the sessions together or is cut short. -/
theorem takeStep_compared (k : Conductor) (index : Nat) (group : Option String) (step : Step)
    (h : s.Agrees t) :
    Compared (k.takeStep index group step s) (k.undisturbed.takeStep index group step t) := by
  by_cases hcancelled : s.cancelled = true
  · rw [takeStep_of_cancelled hcancelled]
    exact .cut rfl hcancelled
  · rw [takeStep_of_open (Bool.eq_false_iff.2 hcancelled), takeStep_of_open h.opened]
    refine runStep_compared k.runner k.narration step (h.idle k.runner ?_ ?_)
    · exact (s.enter_handed _).trans (k.sayGroup_handed group step _)
    · exact (t.enter_handed _).trans (k.undisturbed.sayGroup_handed group step _)

/-- In a cancelled session every step is recorded as cancelled. -/
theorem outcomesFrom_of_cancelled {steps : List Step} :
    ∀ {index : Nat} {group : Option String} {s : Session}, s.cancelled = true →
      ∀ o ∈ (k.outcomesFrom index group steps s).2, o.isCancelled = true := by
  induction steps with
  | nil =>
      intro index group s hcancelled o ho
      cases ho
  | cons step rest ih =>
      intro index group s hcancelled o ho
      rw [outcomesFrom_cons, takeStep_of_cancelled hcancelled] at ho
      rcases List.mem_cons.1 ho with rfl | ho
      · rfl
      · exact ih (s := s.enter (.executing index)) hcancelled o ho

/-- **There is one cut.**  Up to some step a run records what it would record if it were never
cancelled, and from there on every step is recorded as cancelled. -/
theorem outcomesFrom_cut (k : Conductor) (steps : List Step) :
    ∀ (index : Nat) (group : Option String) {s t : Session}, s.Agrees t →
      ∃ cut ≤ steps.length,
        (k.outcomesFrom index group steps s).2.take cut =
          (k.undisturbed.outcomesFrom index group steps t).2.take cut ∧
        ∀ o ∈ (k.outcomesFrom index group steps s).2.drop cut, o.isCancelled = true := by
  induction steps with
  | nil =>
      intro index group s t _
      exact ⟨0, Nat.le_refl 0, rfl, fun o ho => by cases ho⟩
  | cons step rest ih =>
      intro index group s t h
      by_cases hcancelled : s.cancelled = true
      · exact ⟨0, Nat.zero_le _, rfl, outcomesFrom_of_cancelled hcancelled⟩
      cases k.takeStep_compared index group step h with
      | same houtcome hsession =>
          -- the cut lies in the rest, which both runs reach with the same current group
          obtain ⟨cut, hle, hsame, hcut⟩ :=
            ih (index + 1) (groupAfter group step) hsession
          have hopen : ¬ t.cancelled = true := Bool.eq_false_iff.1 h.opened
          refine ⟨cut + 1, Nat.succ_le_succ hle, ?_, ?_⟩
          · rw [outcomesFrom_cons, outcomesFrom_cons, if_neg hcancelled, if_neg hopen,
              List.take_succ_cons, List.take_succ_cons, houtcome, hsame]
          · rw [outcomesFrom_cons, if_neg hcancelled, List.drop_succ_cons]
            exact hcut
      | cut houtcome hsession =>
          refine ⟨0, Nat.zero_le _, rfl, ?_⟩
          intro o ho
          rw [List.drop_zero, outcomesFrom_cons] at ho
          rcases List.mem_cons.1 ho with rfl | ho
          · exact houtcome
          · exact outcomesFrom_of_cancelled hsession o ho

end Conductor

/-! ### Attempts behind the cut -/

/-- An attempt counts as cancelled when it stopped before the end of its step and nothing had
failed. -/
theorem Attempt.isCancelled_iff {a : Attempt} (h : a.tries.map Try.command <+: a.step.commands)
    (hcodes : ∀ t ∈ a.tries, t.outcome.exitCode ≠ cancelledCode) :
    a.outcome.isCancelled = true ↔
      a.tries.length < a.step.commands.length ∧ ∀ t ∈ a.tries, t.succeeded = true := by
  unfold Attempt.outcome Step.outcome
  rw [outcomeFrom_isCancelled_iff (Attempt.results_length h) (List.forall_mem_map.2 hcodes),
    List.forall_mem_map, List.length_map]
  rfl

/-- What is tried up to a failure does not count as cancelled. -/
theorem UpToFailure.not_isCancelled {a : Attempt} (h : UpToFailure a.step.commands a.tries)
    (hcodes : ∀ t ∈ a.tries, t.outcome.exitCode ≠ cancelledCode) :
    a.outcome.isCancelled = false := by
  rw [← Bool.not_eq_true, Attempt.isCancelled_iff h.inOrder hcodes]
  rintro ⟨hlength, hgood⟩
  rw [← h.all_of_succeeded hgood, List.length_map] at hlength
  exact Nat.lt_irrefl _ hlength

/-- What goes on up to a failure and does not count as cancelled is tried up to a failure. -/
theorem UpToFailure.of_not_isCancelled {a : Attempt}
    (hinOrder : a.tries.map Try.command <+: a.step.commands)
    (hgoesOn : ∀ t ∈ a.tries.dropLast, t.succeeded = true)
    (hcodes : ∀ t ∈ a.tries, t.outcome.exitCode ≠ cancelledCode)
    (hcancelled : a.outcome.isCancelled = false) : UpToFailure a.step.commands a.tries where
  inOrder := hinOrder
  goesOn := hgoesOn
  stops := by
    by_contra hnot
    rw [not_or] at hnot
    obtain ⟨hmore, hnone⟩ := hnot
    have hlength : a.tries.length < a.step.commands.length := by
      have hle := hinOrder.length_le
      rw [List.length_map] at hle
      refine Nat.lt_of_le_of_ne hle fun heq => hmore (hinOrder.eq_of_length ?_)
      rw [List.length_map, heq]
    have hgood := all_succeeded hgoesOn hnone
    rw [(Attempt.isCancelled_iff hinOrder hcodes).2 ⟨hlength, hgood⟩] at hcancelled
    cases hcancelled

namespace Attempted

variable {runner : Runner} {s after : Session} {a : Attempt} {attempts : List Attempt}

theorem drop (h : Attempted runner s attempts after) :
    ∀ n, ∃ mid, Attempted runner mid (attempts.drop n) after := by
  induction h with
  | nil s => exact fun n => ⟨s, by rw [List.drop_nil]; exact .nil s⟩
  | @cons s mid after a others first rest ih =>
      intro n
      cases n with
      | zero => exact ⟨s, .cons first rest⟩
      | succ n => exact ih n

/-- Nothing is tried behind a step that was cut short. -/
theorem nil_of_short (h : Attempted runner s (a :: attempts) after)
    (hshort : a.tries.length < a.step.commands.length) (hgood : ∀ t ∈ a.tries, t.succeeded = true) :
    ∀ b ∈ attempts, b.tries = [] := by
  cases h with
  | @cons _ mid _ _ _ first rest =>
      have hcancelled : mid.cancelled = true := by
        by_contra hopen
        have hup := first.upToFailure (Bool.eq_false_iff.2 hopen)
        rw [← hup.all_of_succeeded hgood, List.length_map] at hshort
        exact Nat.lt_irrefl _ hshort
      exact List.flatMap_eq_nil_iff.1 (rest.handed.eq_nil hcancelled)

/-- If the attempts from some point on were all cut short, only the first of them tried anything. -/
theorem nil_behind (h : Attempted runner s attempts after) {cut : Nat}
    (hshort : ∀ a ∈ attempts.drop cut, a.tries.length < a.step.commands.length ∧
      ∀ t ∈ a.tries, t.succeeded = true) :
    ∀ a ∈ attempts.drop (cut + 1), a.tries = [] := by
  obtain ⟨mid, hrest⟩ := h.drop cut
  rw [← List.drop_drop]
  cases hdrop : attempts.drop cut with
  | nil => simp
  | cons a others =>
      rw [hdrop] at hrest hshort
      obtain ⟨hlength, hgood⟩ := hshort a List.mem_cons_self
      exact hrest.nil_of_short hlength hgood

/-- No command of an attempt exits with the code for a cancelled step if the runner never says
so. -/
theorem exitCode_ne (h : Attempted runner s attempts after)
    (hcode : ∀ past tree c, (runner past tree c).outcome.exitCode ≠ cancelledCode) :
    ∀ a ∈ attempts, ∀ t ∈ a.tries, t.outcome.exitCode ≠ cancelledCode := by
  intro a ha t ht
  obtain ⟨past, tree, hreaction⟩ := h.handed.exists_of_mem (List.mem_flatMap.2 ⟨a, ha, ht⟩)
  rw [Try.outcome, hreaction]
  exact hcode past tree t.command

end Attempted

/-! ### Executions and runs with a cut -/

namespace Conductor

variable {k : Conductor} {config : Config} {selection : Selection} {root : Path} {p : Plan}
  {s : Session} {sink : Sink} {attempts : List Attempt} {l : Ledger}

/-- An execution beside the same one never cancelled, whose ledger is `l₀`.  They part at step
number `cut`, or not at all if there is no such step. -/
structure Cut (k : Conductor) (p : Plan) (s : Session) (attempts : List Attempt) (l l₀ : Ledger)
    (cut : Nat) : Prop where
  /-- Both executions come to their end. -/
  done : (k.execute p s).2 = .ok l
  undisturbed : (k.undisturbed.execute p s.undisturbed).2 = .ok l₀
  /-- There is one attempt per step of the plan, in order, -/
  steps : attempts.map Attempt.step = p.steps
  /-- and one outcome, under the name of the step -/
  names : l.names = p.steps.map Step.name
  /-- and made of the results of its commands. -/
  outcomes : l.outcomes = attempts.map fun a => a.step.outcome (a.tries.map Try.outcome)
  /-- The commands of the attempts are handed over, one attempt after the other. -/
  commands : (k.execute p s).1.commands =
    s.commands ++ (attempts.flatMap Attempt.tries).map Try.command
  /-- Their results are what the runner answers. -/
  answers : k.runner.tries s.commands s.tree ((attempts.flatMap Attempt.tries).map Try.command) =
    attempts.flatMap Attempt.tries
  /-- Whenever a command is handed over, the run is not cancelled. -/
  timely : ∀ earlier t later, attempts.flatMap Attempt.tries = earlier ++ t :: later →
    (s.cancelled || earlier.any Try.cancels) = false
  /-- An attempt runs some first commands of its step. -/
  inOrder : ∀ a ∈ attempts, a.tries.map Try.command <+: a.step.commands
  cut_le : cut ≤ p.steps.length
  /-- Before the cut nothing is different, -/
  before : l.outcomes.take cut = l₀.outcomes.take cut
  /-- and a step is run up to and including its first failure. -/
  upToFailure : ∀ a ∈ attempts.take cut, UpToFailure a.step.commands a.tries
  /-- From there on every step is recorded as failed, with the code for a cancelled one. -/
  behind : ∀ o ∈ l.outcomes.drop cut, o.success = false ∧ o.exitCode = some cancelledCode
  /-- What was still run of the step at the cut succeeded, -/
  succeeded : ∀ a ∈ attempts.drop cut, ∀ t ∈ a.tries, t.succeeded = true
  /-- and nothing is run behind it. -/
  idle : ∀ a ∈ attempts.drop (cut + 1), a.tries = []
  /-- A cancelled step is recorded exactly if there is one at the cut. -/
  marked : (∃ o ∈ l.outcomes, o.isCancelled = true) ↔ cut < p.steps.length

/-- The ledger holds what the loop without a ledger finds. -/
theorem Executed.outcomes_eq (h : k.Executed p s attempts l) (hp : p.WF) :
    l.outcomes = (k.outcomesFrom 0 none p.steps s).2 := by
  obtain ⟨m, hm, hrun⟩ := k.execute_eq hp s
  have hdone := h.done
  rw [hrun] at hdone
  cases hdone
  exact hm

/-- A step that is recorded as cancelled is recorded as failed. -/
theorem Executed.success_of_isCancelled (h : k.Executed p s attempts l) {o : StepOutcome}
    (ho : o ∈ l.outcomes) (hcancelled : o.isCancelled = true) : o.success = false := by
  rw [h.outcomes] at ho
  obtain ⟨a, -, rfl⟩ := List.mem_map.1 ho
  exact outcomeFrom_success_of_isCancelled hcancelled

/-- An execution that does not end cancelled records no step as cancelled. -/
theorem Executed.not_isCancelled (h : k.Executed p s attempts l)
    (hopen : (k.execute p s).1.cancelled = false)
    (hcode : ∀ past tree c, (k.runner past tree c).outcome.exitCode ≠ cancelledCode) :
    ∀ o ∈ l.outcomes, o.isCancelled = false := by
  rw [h.outcomes]
  intro o ho
  obtain ⟨a, ha, rfl⟩ := List.mem_map.1 ho
  exact (h.attempted.upToFailure hopen a ha).not_isCancelled (h.attempted.exitCode_ne hcode a ha)

/-- There is a cancelled outcome exactly if there is one at the cut. -/
theorem exists_isCancelled_iff {outcomes undisturbed : List StepOutcome} {cut : Nat}
    (hbefore : outcomes.take cut = undisturbed.take cut)
    (hnone : ∀ o ∈ undisturbed, o.isCancelled = false)
    (hbehind : ∀ o ∈ outcomes.drop cut, o.isCancelled = true) :
    (∃ o ∈ outcomes, o.isCancelled = true) ↔ cut < outcomes.length := by
  constructor
  · rintro ⟨o, ho, hcancelled⟩
    by_contra hnot
    -- nothing is behind the cut, so all outcomes are undisturbed ones
    rw [List.take_of_length_le (Nat.le_of_not_lt hnot)] at hbefore
    rw [hbefore] at ho
    rw [hnone o (List.mem_of_mem_take ho)] at hcancelled
    cases hcancelled
  · intro hlt
    have hmem : outcomes[cut] ∈ outcomes.drop cut := by
      rw [List.drop_eq_getElem_cons hlt]
      exact List.mem_cons_self
    exact ⟨_, List.getElem_mem hlt, hbehind _ hmem⟩

/-- **Every execution has its cut.** -/
theorem Executed.exists_cut (h : k.Executed p s attempts l) (hp : p.WF)
    (hcode : ∀ past tree c, (k.runner past tree c).outcome.exitCode ≠ cancelledCode) :
    ∃ l₀ cut, k.Cut p s attempts l l₀ cut := by
  obtain ⟨attempts₀, l₀, h₀⟩ := k.undisturbed.execute_executed hp s.undisturbed
  obtain ⟨cut, hle, hbefore, hbehind⟩ :=
    k.outcomesFrom_cut p.steps 0 none s.agrees_undisturbed
  rw [← h.outcomes_eq hp] at hbefore hbehind
  rw [← h₀.outcomes_eq hp] at hbefore
  have hnone := h₀.not_isCancelled (h₀.open_of_never rfl fun _ _ _ => rfl) hcode
  have hshort : ∀ a ∈ attempts.drop cut, a.tries.length < a.step.commands.length ∧
      ∀ t ∈ a.tries, t.succeeded = true := by
    intro a ha
    have hmem : a ∈ attempts := List.mem_of_mem_drop ha
    rw [← Attempt.isCancelled_iff (h.attempted.inOrder a hmem)
      (h.attempted.exitCode_ne hcode a hmem)]
    refine hbehind _ ?_
    rw [h.outcomes, ← List.map_drop]
    exact List.mem_map_of_mem ha
  refine ⟨l₀, cut, {
    done := h.done
    undisturbed := h₀.done
    steps := h.steps
    names := h.names
    outcomes := h.outcomes
    commands := h.attempted.handed.commands
    answers := h.attempted.handed.answers
    timely := h.attempted.handed.timely
    inOrder := h.attempted.inOrder
    cut_le := hle
    before := hbefore
    upToFailure := ?_
    behind := ?_
    succeeded := fun a ha => (hshort a ha).2
    idle := h.attempted.nil_behind hshort
    marked := ?_ }⟩
  · intro a ha
    have hmem : a ∈ attempts := List.mem_of_mem_take ha
    refine .of_not_isCancelled (h.attempted.inOrder a hmem) (h.attempted.goesOn a hmem)
      (h.attempted.exitCode_ne hcode a hmem) (hnone _ (List.mem_of_mem_take (i := cut) ?_))
    rw [← hbefore, h.outcomes, ← List.map_take]
    exact List.mem_map_of_mem ha
  · intro o ho
    have hcancelled := hbehind o ho
    exact ⟨h.success_of_isCancelled (List.mem_of_mem_drop ho) hcancelled,
      of_decide_eq_true hcancelled⟩
  · have hlength : l.outcomes.length = p.steps.length := by
      rw [h.outcomes, List.length_map, ← h.steps, List.length_map]
    rw [← hlength]
    exact exists_isCancelled_iff hbefore hnone hbehind

/-- How a run behind a plan is concluded whose execution leaves `l` and has its cut at `cut`. -/
structure Concluded (k : Conductor) (config : Config) (selection : Selection) (root : Path)
    (s : Session) (sink : Sink) (p : Plan) (l : Ledger) (cut : Nat) : Prop where
  /-- No command is run but in the execution. -/
  commands : (k.run config selection root s sink).1.commands = (k.ended p s).commands
  /-- The report is made, and it arrives if the sink takes it. -/
  reported : ∃ r, Report.ofLedger l = .ok r ∧
    (sink.Takes (k.reportText (k.ended p s).tree l r) → sink.flushFails = false →
      (k.run config selection root s sink).2 =
        (sink.taking (k.reportText (k.ended p s).tree l r), .ok ⟨l, r⟩))
  /-- The summary says that the run was interrupted exactly if a step was cut, -/
  interrupted : ∀ summary, (k.run config selection root s sink).2.2 = .ok summary →
    (summary.interrupted = true ↔ cut < p.steps.length)
  /-- and then the exit code is one. -/
  exitCode : ∀ summary, (k.run config selection root s sink).2.2 = .ok summary →
    summary.interrupted = true → summary.exitCode = 1

/-- **A cancelled run is one run up to a step and nothing behind it.**  Whenever the run is
cancelled, no command is run from then on, the steps so far are recorded as if nothing had
happened, the others as cancelled, and the report is made as ever. -/
theorem run_cut (k : Conductor) (config : Config) (selection : Selection) (root : Path)
    (s : Session) (sink : Sink)
    (hp : CheckMatrix.plan k.process s.tree config selection root = .ok p)
    (hcode : ∀ past tree c, (k.runner past tree c).outcome.exitCode ≠ cancelledCode) :
    ∃ attempts l l₀ cut, k.Cut p (k.begun p s) attempts l l₀ cut ∧
      k.Concluded config selection root s sink p l cut := by
  have hwf := plan_wf hp
  obtain ⟨attempts, l, r, hran⟩ := k.perform_performed hwf s sink
  obtain ⟨l₀, cut, hcut⟩ := hran.executed.exists_cut hwf hcode
  have hrun : k.run config selection root s sink = k.perform p (k.begun p s) sink := run_of_plan hp
  refine ⟨attempts, l, l₀, cut, hcut, {
    commands := ?_
    reported := ⟨r, hran.reported, fun htakes hflush => ?_⟩
    interrupted := fun summary hresult => ?_
    exitCode := fun summary hresult hinterrupted => ?_ }⟩
  · rw [hrun, hran.commands]
  · have hwritten := writeReport_of_takes htakes hflush
    rw [hrun]
    refine Prod.ext ?_ (hran.result_iff.2 ⟨rfl, htakes, hflush⟩)
    rw [hran.received, hwritten]
  · rw [hrun] at hresult
    obtain ⟨rfl, -⟩ := hran.result_iff.1 hresult
    rw [← hcut.marked, RunSummary.interrupted, List.any_eq_true]
  · rw [hrun] at hresult
    obtain ⟨rfl, -⟩ := hran.result_iff.1 hresult
    obtain ⟨o, ho, hcancelled⟩ := List.any_eq_true.1 hinterrupted
    -- a cancelled step failed, so not every step succeeded
    have hbad : ¬ l.outcomes.all StepOutcome.success = true := by
      intro hall
      have hgood := List.all_eq_true.1 hall o ho
      rw [hran.executed.success_of_isCancelled ho hcancelled] at hgood
      cases hgood
    rw [RunSummary.exitCode, Report.exitCode_of_ofLedger hran.reported, if_neg hbad]

end Conductor

/-- The first step fails and the second one cancels the run, so that the third is cut. -/
theorem Sample.run_cut_clippy :
    (∀ past tree c, ((conductor "fix" (some "clippy")).runner past tree c).outcome.exitCode ≠
      cancelledCode) ∧
    ∃ attempts l l₀ cut,
      (conductor "fix" (some "clippy")).Cut plan
          ((conductor "fix" (some "clippy")).begun plan (.start tree)) attempts l l₀ cut ∧
        (conductor "fix" (some "clippy")).Concluded config .default root (.start tree) .unlimited
          plan l cut :=
  have hcode : ∀ past tree c,
      ((conductor "fix" (some "clippy")).runner past tree c).outcome.exitCode ≠ cancelledCode := by
    intro past tree c
    change (if c.args = ["fix"] then (1 : Int) else 0) ≠ -3
    split <;> decide
  ⟨hcode, Conductor.run_cut _ config .default root (.start tree) _ plan_eq hcode⟩

end CheckMatrix
