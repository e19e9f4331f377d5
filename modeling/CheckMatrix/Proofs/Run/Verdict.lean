/-
When a run is green.

Exit code zero is what everything else relies on, so it must not come about by accident: not
because nothing was planned, not because a step had no commands, a command was left out or a step
was cancelled, and not because the report got lost.  `exitCode_eq_zero_iff` says exactly when a run
ends with it, for every runner, every moment of a cancellation and every sink.

One direction follows an all-good report back through the attempts to the commands.  The other has
only the record to go by: the commands of the plan are all on it.  Each attempt holds some first
commands of its step, so nothing can be missing from any of them (`all_tried_of_handed`).
-/
import CheckMatrix.Proofs.Run.Reporting

namespace CheckMatrix

/-! ### Attempts that hold every command -/

theorem tries_length_le {attempts : List Attempt}
    (hinOrder : ∀ a ∈ attempts, a.tries.map Try.command <+: a.step.commands) :
    ((attempts.flatMap Attempt.tries).map Try.command).length ≤
      ((attempts.map Attempt.step).flatMap Step.commands).length := by
  induction attempts with
  | nil => simp
  | cons a rest ih =>
      have hfirst := (hinOrder a List.mem_cons_self).length_le
      have hrest := ih fun b hb => hinOrder b (List.mem_cons_of_mem a hb)
      simp only [List.flatMap_cons, List.map_cons, List.map_append, List.length_append]
      omega

/-- If the attempts hold all commands together, each of them holds all of its own. -/
theorem all_tried_of_handed {attempts : List Attempt}
    (hinOrder : ∀ a ∈ attempts, a.tries.map Try.command <+: a.step.commands)
    (hall : (attempts.flatMap Attempt.tries).map Try.command =
      (attempts.map Attempt.step).flatMap Step.commands) :
    ∀ a ∈ attempts, a.tries.map Try.command = a.step.commands := by
  induction attempts with
  | nil => simp
  | cons a rest ih =>
      have hlater : ∀ b ∈ rest, b.tries.map Try.command <+: b.step.commands :=
        fun b hb => hinOrder b (List.mem_cons_of_mem a hb)
      have hle := (hinOrder a List.mem_cons_self).length_le
      have hrest := tries_length_le hlater
      simp only [List.flatMap_cons, List.map_cons, List.map_append] at hall
      have hlength := congrArg List.length hall
      simp only [List.length_append] at hlength
      obtain ⟨hfirst, hothers⟩ := List.append_inj hall (by omega)
      intro b hb
      rcases List.mem_cons.1 hb with rfl | hb
      · exact hfirst
      · exact ih hlater hothers b hb

theorem handed_of_all_tried {attempts : List Attempt}
    (hall : ∀ a ∈ attempts, a.tries.map Try.command = a.step.commands) :
    (attempts.flatMap Attempt.tries).map Try.command =
      (attempts.map Attempt.step).flatMap Step.commands := by
  rw [List.map_flatMap, List.flatMap_map]
  exact List.flatMap_congr hall

/-! ### The report of a green run -/

/-- The report over a plan all of whose steps succeed. -/
def Report.passing (p : Plan) : Report where
  text := String.join (p.steps.map fun step => stepLine (.passed step.name)) ++ verdictLine true
  exitCode := 0

theorem Report.stepLine_of_success {o : StepOutcome} (h : o.success = true) :
    stepLine o = stepLine (.passed o.name) := by
  unfold stepLine
  rw [h]
  rfl

/-- Nothing is said about logs when nothing failed. -/
theorem failureDetails_of_success {v : Voice} {t : FileTree} {l : Ledger}
    (h : l.outcomes.all StepOutcome.success = true) : failureDetails v t l = "" := by
  have hnone : l.failures = [] := by
    rw [Ledger.failures, List.filter_eq_nil_iff]
    intro o ho
    simp [List.all_eq_true.1 h o ho]
  unfold failureDetails failuresWithLog
  rw [hnone]
  rfl

namespace Conductor

variable {k : Conductor} {config : Config} {selection : Selection} {root : Path} {s : Session}
  {sink : Sink} {p : Plan} {attempts : List Attempt} {l : Ledger} {r : Report}

/-- What a run writes in which every step succeeds. -/
theorem Performed.reportText_eq (h : k.Performed p s sink attempts l r)
    (hall : l.outcomes.all StepOutcome.success = true) :
    k.reportText (k.ended p s).tree l r = (Report.passing p).written k.reporting := by
  have hne := Report.outcomes_ne_nil h.reported
  have hlines : l.outcomes.map Report.stepLine =
      p.steps.map fun step => Report.stepLine (.passed step.name) := by
    have hnames := congrArg (List.map fun name => Report.stepLine (.passed name)) h.executed.names
    rw [Ledger.names, List.map_map, List.map_map] at hnames
    rw [← Function.comp_def (fun name => Report.stepLine (.passed name)), ← hnames]
    exact List.map_congr_left fun o ho =>
      Report.stepLine_of_success (List.all_eq_true.1 hall o ho)
  have hreported := h.reported
  rw [Report.ofLedger_eq hne, hall, hlines] at hreported
  cases hreported
  unfold reportText
  rw [failureDetails_of_success hall, String.append_empty]
  rfl

/-- The steps of a run all succeed exactly when every command of the plan was run and every one
succeeded. -/
theorem Performed.all_success_iff (h : k.Performed p s sink attempts l r) :
    l.outcomes.all StepOutcome.success = true ↔
      (k.ended p s).commands = s.commands ++ p.steps.flatMap Step.commands ∧
        ∀ t ∈ k.runner.tries s.commands s.tree (p.steps.flatMap Step.commands),
          t.succeeded = true := by
  have hinOrder := h.executed.attempted.inOrder
  have hcommands := h.handed.commands
  have hanswers := h.handed.answers
  have hsuccess : l.outcomes.all StepOutcome.success = true ↔
      ∀ a ∈ attempts, a.outcome.success = true := by
    rw [h.executed.outcomes, List.all_map, List.all_eq_true]
    rfl
  rw [hsuccess, ← h.executed.steps]
  constructor
  · intro hgood
    have hall := handed_of_all_tried fun a ha =>
      ((Attempt.success_iff (hinOrder a ha)).1 (hgood a ha)).1
    rw [← hall, hanswers]
    refine ⟨hcommands, fun t ht => ?_⟩
    obtain ⟨a, ha, hta⟩ := List.mem_flatMap.1 ht
    exact ((Attempt.success_iff (hinOrder a ha)).1 (hgood a ha)).2 t hta
  · rintro ⟨hhanded, hgood⟩ a ha
    rw [hcommands] at hhanded
    have hall := List.append_cancel_left hhanded
    rw [← hall, hanswers] at hgood
    refine (Attempt.success_iff (hinOrder a ha)).2 ⟨all_tried_of_handed hinOrder hall a ha, ?_⟩
    exact fun t ht => hgood t (List.mem_flatMap.2 ⟨a, ha, ht⟩)

/-- What has to come together for a green run. -/
structure Green (k : Conductor) (config : Config) (selection : Selection) (root : Path)
    (s : Session) (sink : Sink) (p : Plan) : Prop where
  /-- There is a plan. -/
  planned : CheckMatrix.plan k.process s.tree config selection root = .ok p
  /-- The plan is not empty, and neither is any of its steps. -/
  someStep : p.steps ≠ []
  someCommand : ∀ step ∈ p.steps, step.commands ≠ []
  /-- The commands run are exactly those of the plan, in order. -/
  commands : (k.run config selection root s sink).1.commands =
    s.commands ++ p.steps.flatMap Step.commands
  /-- Every one was started and exited with zero. -/
  succeeded : ∀ t ∈ k.runner.tries s.commands s.tree (p.steps.flatMap Step.commands),
    t.outcome.exitCode = 0 ∧ t.outcome.launchError = none
  /-- The sink takes all that is written, which is the report with every step in order, -/
  taken : sink.Takes ((Report.passing p).written k.reporting)
  /-- and it can be flushed. -/
  flushed : sink.flushFails = false

/-- A run that has a result has performed a plan. -/
theorem exists_performed {summary : RunSummary}
    (hresult : (k.run config selection root s sink).2.2 = .ok summary) :
    ∃ p attempts l r, CheckMatrix.plan k.process s.tree config selection root = .ok p ∧ p.WF ∧
      k.Performed p s sink attempts l r := by
  cases hp : CheckMatrix.plan k.process s.tree config selection root with
  | error e =>
      rw [run_of_refused hp] at hresult
      cases hresult
  | ok p =>
      obtain ⟨attempts, l, r, hran⟩ := k.perform_performed (plan_wf hp) s sink
      exact ⟨p, attempts, l, r, rfl, plan_wf hp, hran⟩

/-- Exit code zero means a green run. -/
theorem exists_green {summary : RunSummary}
    (hresult : (k.run config selection root s sink).2.2 = .ok summary)
    (hzero : summary.exitCode = 0) : ∃ p, k.Green config selection root s sink p := by
  obtain ⟨p, attempts, l, r, hp, hwf, hran⟩ := exists_performed hresult
  rw [run_of_plan hp] at hresult
  obtain ⟨rfl, htaken, hflushed⟩ := hran.result_iff.1 hresult
  have hgood : l.outcomes.all StepOutcome.success = true := by
    by_contra hbad
    rw [RunSummary.exitCode, Report.exitCode_of_ofLedger hran.reported, if_neg hbad] at hzero
    cases hzero
  obtain ⟨hcommands, hsucceeded⟩ := hran.all_success_iff.1 hgood
  refine ⟨p, hp, hwf.nonempty, hwf.busy, ?_, ?_, ?_, hflushed⟩
  · rw [run_of_plan hp, hran.commands, hcommands]
  · exact fun t ht => CommandOutcome.succeeded_iff.1 (hsucceeded t ht)
  · rw [← hran.reportText_eq hgood]
    exact htaken

/-- A green run ends with exit code zero. -/
theorem Green.exitCode (h : k.Green config selection root s sink p) :
    ∃ summary, (k.run config selection root s sink).2.2 = .ok summary ∧ summary.exitCode = 0 := by
  obtain ⟨attempts, l, r, hran⟩ := k.perform_performed (plan_wf h.planned) s sink
  have hcommands := h.commands
  rw [run_of_plan h.planned, hran.commands] at hcommands
  have hgood := hran.all_success_iff.2 ⟨hcommands, fun t ht =>
    CommandOutcome.succeeded_iff.2 (h.succeeded t ht)⟩
  refine ⟨⟨l, r⟩, ?_, ?_⟩
  · rw [run_of_plan h.planned]
    refine hran.result_iff.2 ⟨rfl, ?_, h.flushed⟩
    rw [hran.reportText_eq hgood]
    exact h.taken
  · rw [RunSummary.exitCode, Report.exitCode_of_ofLedger hran.reported, if_pos hgood]

/-- **No false green.**  A run ends with exit code zero exactly when everything that was planned
was run and succeeded and the report arrived; otherwise it ends with exit code one or an error. -/
theorem exitCode_eq_zero_iff (k : Conductor) (config : Config) (selection : Selection)
    (root : Path) (s : Session) (sink : Sink) :
    ((∃ summary, (k.run config selection root s sink).2.2 = .ok summary ∧ summary.exitCode = 0) ↔
      ∃ p, k.Green config selection root s sink p) ∧
    ∀ summary, (k.run config selection root s sink).2.2 = .ok summary →
      summary.exitCode = 0 ∨ summary.exitCode = 1 := by
  refine ⟨⟨?_, ?_⟩, ?_⟩
  · rintro ⟨summary, hresult, hzero⟩
    exact exists_green hresult hzero
  · rintro ⟨p, hgreen⟩
    exact hgreen.exitCode
  · intro summary hresult
    obtain ⟨p, attempts, l, r, hp, -, hran⟩ := exists_performed hresult
    rw [run_of_plan hp] at hresult
    obtain ⟨rfl, -⟩ := hran.result_iff.1 hresult
    exact Report.exitCode_eq hran.reported

end Conductor

end CheckMatrix
