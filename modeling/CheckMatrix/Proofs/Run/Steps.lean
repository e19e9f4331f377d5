/-
How one step runs.

The commands of a step are handed over in order until one fails, or until the run is found
cancelled before the next.  What is recorded of the step is then settled by the results alone:
`Step.outcome` reads it off the commands and as many results as there are, without a session, a
runner or anything another step did.  Fewer results than commands, all of them good, are the mark of
a step that was cut short.

Everything is by induction on the commands that are left, generalising the log file that was
written last.
-/
import CheckMatrix.Proofs.Run.Handover
import CheckMatrix.Run.StepRun

namespace CheckMatrix

/-! ### From results to an outcome -/

theorem CommandOutcome.succeeded_iff {o : CommandOutcome} :
    o.succeeded = true ↔ o.exitCode = 0 ∧ o.launchError = none := by
  unfold succeeded
  rw [Bool.and_eq_true, Option.isNone_iff_eq_none, decide_eq_true_iff, and_comm]

/-- The outcome of a step from the results of the commands of it that are left; `log` is the last
log file written before them. -/
def outcomeFrom (name : String) :
    (log : Option Path) → List Command → (results : List CommandOutcome) → StepOutcome
  | log, [], _ => { StepOutcome.passed name with log }
  | log, _ :: _, [] => { StepOutcome.cancelled name with log }
  | log, c :: rest, o :: results =>
    if o.succeeded then outcomeFrom name (c.log.or log) rest results
    else { StepOutcome.failed name o.exitCode with log := c.log }

/-- The outcome of a step from the results of its commands, as far as they were run. -/
def Step.outcome (step : Step) (results : List CommandOutcome) : StepOutcome :=
  outcomeFrom step.name none step.commands results

theorem outcomeFrom_name {name : String} {commands : List Command} :
    ∀ {log : Option Path} {results : List CommandOutcome},
      (outcomeFrom name log commands results).name = name := by
  induction commands with
  | nil => intro log results; rfl
  | cons c rest ih =>
      intro log results
      cases results with
      | nil => rfl
      | cons o results =>
          unfold outcomeFrom
          split
          · exact ih
          · rfl

/-- A step succeeds when every command was run and every one succeeded. -/
theorem outcomeFrom_success_iff {name : String} {commands : List Command} :
    ∀ {log : Option Path} {results : List CommandOutcome}, results.length ≤ commands.length →
      ((outcomeFrom name log commands results).success = true ↔
        results.length = commands.length ∧ ∀ o ∈ results, o.succeeded = true) := by
  induction commands with
  | nil =>
      intro log results hle
      have hnil : results = [] := List.length_eq_zero_iff.1 (Nat.le_zero.1 hle)
      subst hnil
      simp [outcomeFrom, StepOutcome.passed]
  | cons c rest ih =>
      intro log results hle
      cases results with
      | nil => simp [outcomeFrom, StepOutcome.cancelled, StepOutcome.failed]
      | cons o results =>
          unfold outcomeFrom
          split
          · rename_i ho
            rw [ih (Nat.le_of_succ_le_succ hle)]
            simp [ho]
          · rename_i ho
            simp [StepOutcome.failed, ho]

/-- A step counts as cancelled when it was cut short before anything failed, as long as no command
exits with the code that stands for it. -/
theorem outcomeFrom_isCancelled_iff {name : String} {commands : List Command} :
    ∀ {log : Option Path} {results : List CommandOutcome}, results.length ≤ commands.length →
      (∀ o ∈ results, o.exitCode ≠ cancelledCode) →
      ((outcomeFrom name log commands results).isCancelled = true ↔
        results.length < commands.length ∧ ∀ o ∈ results, o.succeeded = true) := by
  induction commands with
  | nil =>
      intro log results hle hcodes
      simp [outcomeFrom, StepOutcome.passed, StepOutcome.isCancelled]
  | cons c rest ih =>
      intro log results hle hcodes
      cases results with
      | nil =>
          simp [outcomeFrom, StepOutcome.cancelled, StepOutcome.failed, StepOutcome.isCancelled]
      | cons o results =>
          have hcode : o.exitCode ≠ cancelledCode := hcodes o List.mem_cons_self
          unfold outcomeFrom
          split
          · rename_i ho
            rw [ih (Nat.le_of_succ_le_succ hle)
              fun o' ho' => hcodes o' (List.mem_cons_of_mem o ho')]
            simp [ho]
          · rename_i ho
            simp [StepOutcome.failed, StepOutcome.isCancelled, ho, hcode]

/-- What counts as cancelled is no success. -/
theorem outcomeFrom_success_of_isCancelled {name : String} {commands : List Command} :
    ∀ {log : Option Path} {results : List CommandOutcome},
      (outcomeFrom name log commands results).isCancelled = true →
        (outcomeFrom name log commands results).success = false := by
  induction commands with
  | nil =>
      intro log results h
      simp [outcomeFrom, StepOutcome.passed, StepOutcome.isCancelled] at h
  | cons c rest ih =>
      intro log results h
      cases results with
      | nil => rfl
      | cons o results =>
          unfold outcomeFrom at h ⊢
          split at h
          · rename_i ho
            rw [if_pos ho]
            exact ih h
          · rename_i ho
            rw [if_neg ho]
            rfl

/-! ### From commands to results -/

/-- The first commands of a list were tried: up to and including the first that fails, all of them
when none does. -/
structure UpToFailure (commands : List Command) (tries : List Try) : Prop where
  inOrder : tries.map Try.command <+: commands
  goesOn : ∀ t ∈ tries.dropLast, t.succeeded = true
  stops : tries.map Try.command = commands ∨
    ∃ t, tries.getLast? = some t ∧ t.succeeded = false

/-- If all tries but the last succeeded, and the last did not fail, then all succeeded. -/
theorem all_succeeded {tries : List Try} (hgoesOn : ∀ t ∈ tries.dropLast, t.succeeded = true)
    (hlast : ¬ ∃ t, tries.getLast? = some t ∧ t.succeeded = false) :
    ∀ t ∈ tries, t.succeeded = true := by
  rcases List.eq_nil_or_concat' tries with rfl | ⟨others, last, rfl⟩
  · simp
  · rw [List.dropLast_concat] at hgoesOn
    intro t ht
    rcases List.mem_append.1 ht with ht | ht
    · exact hgoesOn t ht
    · rw [List.mem_singleton.1 ht]
      by_contra hfailed
      exact hlast ⟨last, List.getLast?_concat, Bool.eq_false_iff.2 hfailed⟩

/-- If none fails, all of them were tried. -/
theorem UpToFailure.all_of_succeeded {commands : List Command} {tries : List Try}
    (h : UpToFailure commands tries) (hgood : ∀ t ∈ tries, t.succeeded = true) :
    tries.map Try.command = commands := by
  rcases h.stops with hall | ⟨t, hlast, hfailed⟩
  · exact hall
  · rw [hgood t (List.mem_of_getLast? hlast)] at hfailed
    cases hfailed

/-- Commands were tried until one failed or the run was cancelled. -/
structure Tried (runner : Runner) (commands : List Command) (s : Session) (tries : List Try)
    (after : Session) : Prop where
  handed : s.Handed runner tries after
  inOrder : tries.map Try.command <+: commands
  goesOn : ∀ t ∈ tries.dropLast, t.succeeded = true
  stops : tries.map Try.command = commands ∨
    (∃ t, tries.getLast? = some t ∧ t.succeeded = false) ∨ after.cancelled = true

namespace Tried

variable {runner : Runner} {commands : List Command} {s after : Session} {tries : List Try}

/-- Commands are all tried up to a failure when the run is not cancelled. -/
theorem upToFailure (h : Tried runner commands s tries after) (hopen : after.cancelled = false) :
    UpToFailure commands tries where
  inOrder := h.inOrder
  goesOn := h.goesOn
  stops := by
    rcases h.stops with hall | hfailed | hcancelled
    · exact Or.inl hall
    · exact Or.inr hfailed
    · rw [hopen] at hcancelled
      cases hcancelled

/-- Nothing is tried in a cancelled run. -/
theorem nil_of_cancelled (hcancelled : s.cancelled = true) (hidle : s.Handed runner [] after) :
    Tried runner commands s [] after where
  handed := hidle
  inOrder := List.nil_prefix
  goesOn := by simp
  stops := by
    refine Or.inr (Or.inr ?_)
    rw [hidle.cancelled, hcancelled]
    rfl

/-- What is only said or noted in front of the commands and behind them makes no difference. -/
theorem between {before later : Session} (h : Tried runner commands s tries after)
    (hbefore : before.Handed runner [] s) (hlater : after.Handed runner [] later) :
    Tried runner commands before tries later where
  handed := by
    have hall := (hbefore.trans h.handed).trans hlater
    rw [List.nil_append, List.append_nil] at hall
    exact hall
  inOrder := h.inOrder
  goesOn := h.goesOn
  stops := by
    rw [hlater.cancelled, List.any_nil, Bool.or_false]
    exact h.stops

/-- One more command in front that succeeded. -/
theorem cons_of_succeeded {c : Command} {mid : Session} {t : Try} (ht : t.command = c)
    (hfirst : s.Handed runner [t] mid) (hsucceeded : t.succeeded = true)
    (h : Tried runner commands mid tries after) :
    Tried runner (c :: commands) s (t :: tries) after where
  handed := hfirst.trans h.handed
  inOrder := by
    rw [List.map_cons, ht]
    exact (List.prefix_cons_inj c).2 h.inOrder
  goesOn := by
    intro t' ht'
    cases tries with
    | nil => cases ht'
    | cons t₁ rest =>
        rw [List.dropLast_cons_of_ne_nil (by simp)] at ht'
        rcases List.mem_cons.1 ht' with rfl | ht'
        · exact hsucceeded
        · exact h.goesOn t' ht'
  stops := by
    rcases h.stops with hall | ⟨last, hlast, hfailed⟩ | hcancelled
    · exact Or.inl (by rw [List.map_cons, ht, hall])
    · refine Or.inr (Or.inl ⟨last, ?_, hfailed⟩)
      rw [List.getLast?_cons, hlast, Option.getD_some]
    · exact Or.inr (Or.inr hcancelled)

/-- A command that failed ends the row. -/
theorem of_failed {c : Command} {t : Try} (ht : t.command = c) (hfirst : s.Handed runner [t] after)
    (hfailed : t.succeeded = false) : Tried runner (c :: commands) s [t] after where
  handed := hfirst
  inOrder := by
    rw [List.map_cons, ht]
    exact (List.prefix_cons_inj c).2 List.nil_prefix
  goesOn := by simp
  stops := Or.inr (Or.inl ⟨t, rfl, hfailed⟩)

end Tried

/-! ### The commands of a step -/

/-- Has a command of a step run, and says so. -/
def handOver (runner : Runner) (v : Voice) (c : Command) (s : Session) :
    Session × CommandOutcome :=
  let (s, outcome) := (s.say ("  " ++ v.paint .dimmed "$" ++ " " ++ c.displayLine)).run runner c
  (match outcome.launchError with
    | some reason => s.say ("  " ++ v.paint .red (v.wording.launchFailed reason))
    | none => s, outcome)

theorem handOver_handed (runner : Runner) (v : Voice) (c : Command) {s : Session}
    (hopen : s.cancelled = false) :
    s.Handed runner [⟨c, runner s.commands s.tree c⟩] (handOver runner v c s).1 := by
  have hsaid : (s.say ("  " ++ v.paint .dimmed "$" ++ " " ++ c.displayLine)).cancelled = false :=
    hopen
  have hrun := (s.say_handed _).trans (Session.run_handed runner hsaid c)
  unfold handOver
  simp only
  split
  · exact hrun.trans (Session.say_handed _ _)
  · exact hrun

/-- The next command is handed over, and the row goes on behind it if it succeeded. -/
theorem runCommands_cons {runner : Runner} {v : Voice} {name : String} {c : Command}
    {rest : List Command} {log : Option Path} {s : Session} (hopen : s.cancelled = false) :
    runCommands runner v name (c :: rest) log s =
      if (runner s.commands s.tree c).outcome.succeeded then
        runCommands runner v name rest (c.log.or log) (handOver runner v c s).1
      else
        ((handOver runner v c s).1,
          { StepOutcome.failed name (runner s.commands s.tree c).outcome.exitCode with
            log := c.log }) := by
  rw [runCommands, if_neg (by simp [hopen])]
  rfl

/-- In a cancelled run the row ends. -/
theorem runCommands_cons_of_cancelled {runner : Runner} {v : Voice} {name : String} {c : Command}
    {rest : List Command} {log : Option Path} {s : Session} (hcancelled : s.cancelled = true) :
    runCommands runner v name (c :: rest) log s =
      (s.say (v.paint .yellow (v.wording.stepCancelled name)),
        { StepOutcome.cancelled name with log }) := by
  rw [runCommands, if_pos hcancelled]

/-- The commands of a step are tried in order, and their results make the outcome. -/
theorem runCommands_tried (runner : Runner) (v : Voice) (name : String) (commands : List Command) :
    ∀ (log : Option Path) (s : Session), ∃ tries,
      Tried runner commands s tries (runCommands runner v name commands log s).1 ∧
        (runCommands runner v name commands log s).2 =
          outcomeFrom name log commands (tries.map Try.outcome) := by
  induction commands with
  | nil =>
      intro log s
      exact ⟨[], ⟨.idle rfl rfl rfl, List.prefix_rfl, by simp, Or.inl rfl⟩, rfl⟩
  | cons c rest ih =>
      intro log s
      by_cases hcancelled : s.cancelled = true
      · rw [runCommands_cons_of_cancelled hcancelled]
        exact ⟨[], .nil_of_cancelled hcancelled (s.say_handed _), rfl⟩
      · have hopen : s.cancelled = false := by simpa using hcancelled
        have hhanded := handOver_handed runner v c hopen
        rw [runCommands_cons hopen]
        by_cases hsucceeded : (runner s.commands s.tree c).outcome.succeeded = true
        · rw [if_pos hsucceeded]
          obtain ⟨tries, htried, houtcome⟩ := ih (c.log.or log) (handOver runner v c s).1
          refine ⟨_ :: tries, .cons_of_succeeded rfl hhanded hsucceeded htried, ?_⟩
          rw [houtcome, List.map_cons, outcomeFrom]
          exact (if_pos hsucceeded).symm
        · rw [if_neg hsucceeded]
          refine ⟨_, .of_failed rfl hhanded (Bool.eq_false_iff.2 hsucceeded), ?_⟩
          rw [List.map_cons, outcomeFrom]
          exact (if_neg hsucceeded).symm

theorem sayOutcome_handed {runner : Runner} (v : Voice) (o : StepOutcome) (took : Duration)
    (s : Session) : s.Handed runner [] (sayOutcome v o took s) := by
  unfold sayOutcome
  split
  · exact s.say_handed _
  · split
    · exact .idle rfl rfl rfl
    · exact s.say_handed _

/-- **A step tries its commands in order, and their results alone make its outcome.** -/
theorem runStep_tried (runner : Runner) (v : Voice) (step : Step) (s : Session) : ∃ tries,
    Tried runner step.commands s tries (runStep runner v step s).1 ∧
      (runStep runner v step s).2 = step.outcome (tries.map Try.outcome) := by
  obtain ⟨tries, htried, houtcome⟩ := runCommands_tried runner v step.name step.commands none
    (s.say (v.paint .blue (v.wording.stepStarted step.name)))
  exact ⟨tries, htried.between (s.say_handed _) (sayOutcome_handed ..), houtcome⟩

end CheckMatrix
