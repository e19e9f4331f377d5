/-
The phases that a run goes through.

A run leaves on the trace which phases it enters and which commands it has run, so what it does in
which order is a matter of the events it adds.  A step adds that it is executed and a row of its
commands, the row being empty when the run is cancelled by then (`takeStep_trace`).  The steps of a
plan add theirs one after the other, counted from zero (`outcomesFrom_trace`), and reporting comes
behind the last of them whatever became of it (`Performed.trace`).

A `Request` calls a run on a conductor that may have been called before: the trace, the runner's
past and a cancellation stay, while the files may have changed and the run may have been cancelled
in between.  `serve_passed` goes over any number of calls.
-/
import CheckMatrix.Proofs.Run.Reporting

namespace CheckMatrix

/-! ### What steps leave on the trace -/

/-- What a step leaves: that it is executed, and the commands of it that are run. -/
def stepEvents (index : Nat) (row : List Command) : List Event :=
  .entered (.executing index) :: row.map .ran

/-- What some steps leave, the first of them having a number. -/
def stepsEvents : (index : Nat) → (rows : List (List Command)) → List Event
  | _, [] => []
  | index, row :: rest => stepEvents index row ++ stepsEvents (index + 1) rest

/-- A row of commands for each step, which are first commands of it. -/
def RowsOf (rows : List (List Command)) (steps : List Step) : Prop :=
  List.Forall₂ (fun row step => row <+: step.commands) rows steps

theorem handOver_trace (runner : Runner) (v : Voice) (c : Command) (s : Session) :
    (handOver runner v c s).1.trace = s.trace ++ [.ran c] := by
  unfold handOver
  simp only
  split
  · rfl
  · rfl

theorem runCommands_trace (runner : Runner) (v : Voice) (name : String) (commands : List Command) :
    ∀ (log : Option Path) (s : Session), ∃ row, row <+: commands ∧
      (runCommands runner v name commands log s).1.trace = s.trace ++ row.map .ran := by
  induction commands with
  | nil =>
      intro log s
      exact ⟨[], List.prefix_rfl, (List.append_nil _).symm⟩
  | cons c rest ih =>
      intro log s
      by_cases hcancelled : s.cancelled = true
      · rw [runCommands_cons_of_cancelled hcancelled]
        exact ⟨[], List.nil_prefix, (List.append_nil _).symm⟩
      · rw [runCommands_cons (Bool.eq_false_iff.2 hcancelled)]
        have hfirst := handOver_trace runner v c s
        split
        · obtain ⟨row, hrow, htrace⟩ := ih (c.log.or log) (handOver runner v c s).1
          refine ⟨c :: row, (List.prefix_cons_inj c).2 hrow, ?_⟩
          rw [htrace, hfirst, List.append_assoc]
          rfl
        · exact ⟨[c], (List.prefix_cons_inj c).2 List.nil_prefix, hfirst⟩

theorem sayOutcome_trace (v : Voice) (o : StepOutcome) (took : Duration) (s : Session) :
    (sayOutcome v o took s).trace = s.trace := by
  unfold sayOutcome
  split
  · rfl
  · split
    · rfl
    · rfl

theorem runStep_trace (runner : Runner) (v : Voice) (step : Step) (s : Session) :
    ∃ row, row <+: step.commands ∧
      (runStep runner v step s).1.trace = s.trace ++ row.map .ran := by
  obtain ⟨row, hrow, htrace⟩ := runCommands_trace runner v step.name step.commands none
    (s.say (v.paint .blue (v.wording.stepStarted step.name)))
  refine ⟨row, hrow, ?_⟩
  unfold runStep
  rw [sayOutcome_trace, htrace]
  rfl

namespace Conductor

variable {k : Conductor}

theorem sayGroup_trace (k : Conductor) (group : Option String) (step : Step) (s : Session) :
    (k.sayGroup group step s).trace = s.trace := by
  unfold sayGroup
  split
  · rfl
  · rfl

/-- A step leaves that it is executed, also when it is only noted as cancelled. -/
theorem takeStep_trace (k : Conductor) (index : Nat) (group : Option String) (step : Step)
    (s : Session) : ∃ row, row <+: step.commands ∧
      (k.takeStep index group step s).1.trace = s.trace ++ stepEvents index row := by
  by_cases hcancelled : s.cancelled = true
  · rw [takeStep_of_cancelled hcancelled]
    exact ⟨[], List.nil_prefix, rfl⟩
  · rw [takeStep_of_open (Bool.eq_false_iff.2 hcancelled)]
    obtain ⟨row, hrow, htrace⟩ := runStep_trace k.runner k.narration step
      (k.sayGroup group step (s.enter (.executing index)))
    refine ⟨row, hrow, ?_⟩
    rw [htrace, sayGroup_trace, Session.enter, List.append_assoc]
    rfl

/-- No step is left out and none comes twice. -/
theorem outcomesFrom_trace (k : Conductor) (steps : List Step) :
    ∀ (index : Nat) (group : Option String) (s : Session), ∃ rows, RowsOf rows steps ∧
      (k.outcomesFrom index group steps s).1.trace = s.trace ++ stepsEvents index rows := by
  induction steps with
  | nil =>
      intro index group s
      exact ⟨[], .nil, (List.append_nil _).symm⟩
  | cons step rest ih =>
      intro index group s
      obtain ⟨row, hrow, hfirst⟩ := k.takeStep_trace index group step s
      obtain ⟨rows, hrows, hothers⟩ := ih (index + 1)
        (if s.cancelled then group else groupAfter group step) (k.takeStep index group step s).1
      refine ⟨row :: rows, .cons hrow hrows, ?_⟩
      rw [hfirst, List.append_assoc] at hothers
      exact hothers

/-! ### What a run leaves on the trace -/

/-- What a run leaves that runs rows of commands for the steps of its plan. -/
def runEvents (rows : List (List Command)) (result : Except RunError RunSummary) : List Event :=
  .entered .expanding :: (stepsEvents 0 rows ++ .entered .reporting :: closing result)

/-- Behind its plan a run goes through every step to a report. -/
theorem Performed.trace {p : Plan} {s : Session} {sink : Sink} {attempts : List Attempt}
    {l : Ledger} {r : Report} (h : k.Performed p s sink attempts l r) (hp : p.WF) :
    ∃ rows, RowsOf rows p.steps ∧ (k.perform p (k.begun p s) sink).1.trace =
      (k.begun p s).trace ++ (stepsEvents 0 rows ++
        .entered .reporting :: closing (k.perform p (k.begun p s) sink).2.2) := by
  obtain ⟨shown, hperformed⟩ := h.session
  obtain ⟨rows, hrows, htrace⟩ := k.outcomesFrom_trace p.steps 0 none (k.begun p s)
  have hended : (k.ended p s).trace = (k.begun p s).trace ++ stepsEvents 0 rows := by
    obtain ⟨m, -, hrun⟩ := k.execute_eq hp (k.begun p s)
    rw [ended, hrun]
    exact htrace
  refine ⟨rows, hrows, ?_⟩
  rw [← List.append_assoc, ← hended, hperformed]

end Conductor

/-! ### Commands and the phases they are run in -/

/-- Every command of the events is a command of the step that is being executed, `phase` being the
phase in which they begin. -/
def InPhase (steps : List Step) : (phase : Phase) → List Event → Prop
  | _, [] => True
  | _, .entered phase :: rest => InPhase steps phase rest
  | phase, .ran c :: rest =>
    (∃ i step, phase = .executing i ∧ steps[i]? = some step ∧ c ∈ step.commands) ∧
      InPhase steps phase rest

theorem inPhase_row {steps : List Step} {index : Nat} {step : Step} {rest : List Event}
    (hstep : steps[index]? = some step) (hrest : InPhase steps (.executing index) rest) :
    ∀ {row : List Command}, row ⊆ step.commands →
      InPhase steps (.executing index) (row.map .ran ++ rest) := by
  intro row
  induction row with
  | nil => exact fun _ => hrest
  | cons c row ih =>
      intro hrow
      obtain ⟨hc, hrow⟩ := List.cons_subset.1 hrow
      exact ⟨⟨index, step, rfl, hstep, hc⟩, ih hrow⟩

/-- The rows of some steps are in phase, if no command comes behind them. -/
theorem inPhase_steps {steps : List Step} {rest : List Event}
    (hrest : ∀ phase, InPhase steps phase rest) {later : List Step} {rows : List (List Command)}
    (hrows : RowsOf rows later) :
    ∀ (earlier : List Step) (phase : Phase), steps = earlier ++ later →
      InPhase steps phase (stepsEvents earlier.length rows ++ rest) := by
  induction hrows with
  | nil => exact fun _ phase _ => hrest phase
  | @cons row step rows later hrow _ ih =>
      intro earlier phase hsteps
      have hstep : steps[earlier.length]? = some step := by
        rw [hsteps]
        simp
      have hothers := ih (earlier ++ [step]) (.executing earlier.length)
        (by rw [hsteps, List.append_assoc]; rfl)
      rw [List.length_append, List.length_singleton] at hothers
      rw [stepsEvents, List.append_assoc]
      exact inPhase_row hstep hothers hrow.subset

theorem phases_row (row : List Command) : (row.map Event.ran).filterMap Event.phase? = [] := by
  rw [List.filterMap_map, List.filterMap_eq_nil_iff]
  exact fun _ _ => rfl

/-- Steps are executed in the order of their numbers. -/
theorem phases_steps {rows : List (List Command)} :
    ∀ index : Nat, (stepsEvents index rows).filterMap Event.phase? =
      (List.range' index rows.length).map .executing := by
  induction rows with
  | nil => exact fun _ => rfl
  | cons row rest ih =>
      intro index
      rw [stepsEvents, List.filterMap_append, ih, stepEvents]
      simp only [List.filterMap_cons, Event.phase?, phases_row, List.length_cons,
        List.range'_succ, List.map_cons]
      rfl

/-! ### One call after the other -/

/-- One call of a run: what it is asked for, the files as they are by then, and whether it has been
cancelled by then. -/
structure Request where
  config : Config
  selection : Selection
  root : Path
  sink : Sink
  tree : FileTree
  cancelled : Bool

/-- The session in which a call starts, when `s` is what the calls before it left. -/
def Request.opened (c : Request) (s : Session) : Session :=
  { s with tree := c.tree, cancelled := s.cancelled || c.cancelled }

/-- What a call came to: what planning said, what the run returned and the phase it left. -/
structure Served where
  planned : Except PlanError Plan
  result : Except RunError RunSummary
  phase : Phase

namespace Served

/-- The steps of the plan, if there is one. -/
def steps (v : Served) : List Step :=
  match v.planned with
  | .ok p => p.steps
  | .error _ => []

/-- The phases that a call has to go through. -/
def phases (v : Served) : List Phase :=
  match v.planned, v.result with
  | .error _, _ => [.expanding]
  | .ok p, .error _ =>
    .expanding :: ((List.range p.steps.length).map .executing ++ [.reporting])
  | .ok p, .ok _ =>
    .expanding :: ((List.range p.steps.length).map .executing ++ [.reporting, .done])

/-- A call that went through its phases, leaving some events. -/
structure Passed (v : Served) (events : List Event) : Prop where
  /-- The phases come in order, and none is skipped. -/
  phases : events.filterMap Event.phase? = v.phases
  /-- Every command is run while the step that it belongs to is executed. -/
  commands : InPhase v.steps .notStarted events
  /-- The phase that is left says how the call ended: it returned a result, -/
  done_iff : v.phase = .done ↔ ∃ summary, v.result = .ok summary
  /-- or the configuration was refused or everything broke off, -/
  expanding_iff : v.phase = .expanding ↔
    (∃ e, v.result = .error (.config e)) ∨ v.result = .error .overflow
  /-- or the report. -/
  reporting_iff : v.phase = .reporting ↔ ∃ e, v.result = .error (.report e)

end Served

namespace Conductor

/-- Serves one call: the session it leaves, and what it came to. -/
def serveOne (k : Conductor) (c : Request) (s : Session) : Session × Served :=
  let (after, _, result) := k.run c.config c.selection c.root (c.opened s) c.sink
  (after, ⟨CheckMatrix.plan k.process c.tree c.config c.selection c.root, result, after.phase⟩)

/-- Serves calls one after the other. -/
def serve (k : Conductor) : List Request → Session → Session × List Served
  | [], s => (s, [])
  | c :: rest, s =>
    let (mid, first) := k.serveOne c s
    let (after, others) := serve k rest mid
    (after, first :: others)

/-- **The events of a run that has a plan.**  Only the report can fail, and then the run is not
done. -/
theorem run_trace (k : Conductor) {config : Config} {selection : Selection} {root : Path}
    {s : Session} {p : Plan}
    (hp : CheckMatrix.plan k.process s.tree config selection root = .ok p) (sink : Sink) :
    ∃ rows, RowsOf rows p.steps ∧
      (k.run config selection root s sink).1.trace =
        s.trace ++ runEvents rows (k.run config selection root s sink).2.2 ∧
      ∀ e, (k.run config selection root s sink).2.2 ≠ .error (.ofPlan e) := by
  obtain ⟨attempts, l, r, hran⟩ := k.perform_performed (plan_wf hp) s sink
  obtain ⟨rows, hrows, htrace⟩ := hran.trace (plan_wf hp)
  rw [run_of_plan hp]
  refine ⟨rows, hrows, ?_, hran.result_ne_ofPlan⟩
  rw [htrace]
  exact List.append_assoc s.trace [.entered .expanding] _

/-! ### Reading the phases off the events -/

theorem phases_runEvents {rows : List (List Command)} {steps : List Step}
    (hrows : RowsOf rows steps) (result : Except RunError RunSummary) :
    (runEvents rows result).filterMap Event.phase? =
      .expanding :: ((List.range steps.length).map .executing ++
        .reporting :: (closing result).filterMap Event.phase?) := by
  rw [runEvents, List.filterMap_cons, List.filterMap_append, phases_steps, hrows.length_eq,
    List.range_eq_range']
  rfl

theorem inPhase_runEvents {rows : List (List Command)} {steps : List Step}
    (hrows : RowsOf rows steps) (result : Except RunError RunSummary) :
    InPhase steps .notStarted (runEvents rows result) := by
  have hclosing : ∀ phase, InPhase steps phase (.entered .reporting :: closing result) := by
    intro phase
    cases result with
    | ok summary => trivial
    | error e => trivial
  exact inPhase_steps hclosing hrows [] .expanding rfl

/-- The phase entered last is the phase a session is in. -/
theorem phase_of_trace {s after : Session} {events : List Event} {phase : Phase}
    (htrace : after.trace = s.trace ++ events)
    (hlast : (events.filterMap Event.phase?).getLast? = some phase) : after.phase = phase := by
  unfold Session.phase
  rw [htrace, List.filterMap_append, List.getLast?_append, hlast]
  rfl

/-- **A call goes through its phases**, whatever was called before. -/
theorem serveOne_passed (k : Conductor) (c : Request) (s : Session) : ∃ events,
    (k.serveOne c s).1.trace = s.trace ++ events ∧ (k.serveOne c s).2.Passed events := by
  unfold serveOne
  cases hp : CheckMatrix.plan k.process c.tree c.config c.selection c.root with
  | error e =>
      have hphase := (c.opened s).enter_phase .expanding
      rw [run_of_refused (s := c.opened s) hp]
      refine ⟨[.entered .expanding], rfl, rfl, trivial, ?_, ?_, ?_⟩
      all_goals cases e <;> simp [hphase, RunError.ofPlan]
  | ok p =>
      obtain ⟨rows, hrows, htrace, hblameless⟩ := k.run_trace (s := c.opened s) hp c.sink
      generalize k.run c.config c.selection c.root (c.opened s) c.sink = answer at *
      obtain ⟨after, written, result⟩ := answer
      have hphases := phases_runEvents hrows result
      refine ⟨runEvents rows result, htrace, ?_⟩
      cases result with
      | ok summary =>
          have hphase : after.phase = .done := phase_of_trace htrace (by
            rw [hphases, List.getLast?_cons, List.getLast?_append]
            rfl)
          refine ⟨hphases, inPhase_runEvents hrows _, ?_, ?_, ?_⟩
          all_goals simp [hphase]
      | error e =>
          have hphase : after.phase = .reporting := phase_of_trace htrace (by
            rw [hphases, List.getLast?_cons, List.getLast?_append]
            rfl)
          cases e with
          | config e => exact absurd rfl (hblameless (.config e))
          | overflow => exact absurd rfl (hblameless .overflow)
          | report e =>
              refine ⟨hphases, inPhase_runEvents hrows _, ?_, ?_, ?_⟩
              all_goals simp [hphase]

/-- **However often runs are called, each call goes through its phases.**  The events of the calls
stand one after the other on the trace, and nothing else does. -/
theorem serve_passed (k : Conductor) (calls : List Request) (s : Session) :
    ∃ passages : List (List Event),
      (k.serve calls s).1.trace = s.trace ++ passages.flatten ∧
        List.Forall₂ Served.Passed (k.serve calls s).2 passages := by
  induction calls generalizing s with
  | nil => exact ⟨[], (List.append_nil _).symm, .nil⟩
  | cons c rest ih =>
      obtain ⟨events, htrace, hpassed⟩ := k.serveOne_passed c s
      obtain ⟨others, hothers, hrest⟩ := ih (k.serveOne c s).1
      refine ⟨events :: others, ?_, .cons hpassed hrest⟩
      rw [htrace, List.append_assoc] at hothers
      exact hothers

end Conductor

end CheckMatrix
