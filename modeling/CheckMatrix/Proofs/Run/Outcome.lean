/-
What is recorded of a step.

The row of commands of a step has three ends.  A command failed, and it decides what is recorded
(`outcomeFrom_of_failed`).  Or none failed, and then the last log file that was written is recorded
whether all commands were run or the run was cancelled in front of one (`outcomeFrom_of_good`).  How
far the row got is settled by the tries themselves: only the last of them can have failed, and only the
last can have been running when the run was cancelled (`Session.Handed.not_cancels`).

`Step.Ended` says all this of one step, and it holds of every step that is run, whoever runs its
commands and whenever the run is cancelled (`runStep_ended`).
-/
import CheckMatrix.Proofs.Run.Steps

namespace CheckMatrix

/-! ### From results to an outcome -/

/-- The first command that fails decides what is recorded of its step. -/
theorem outcomeFrom_of_failed {name : String} {t : Try} {others : List Try} :
    ∀ {log : Option Path} {commands : List Command},
      (others ++ [t]).map Try.command <+: commands → (∀ o ∈ others, o.succeeded = true) →
        t.succeeded = false →
        outcomeFrom name log commands ((others ++ [t]).map Try.outcome) =
          { StepOutcome.failed name t.outcome.exitCode with log := t.command.log } := by
  induction others with
  | nil =>
      intro log commands hprefix _ hfailed
      cases commands with
      | nil => exact absurd hprefix (by simp)
      | cons c rest =>
          obtain ⟨rfl, -⟩ := List.cons_prefix_cons.1 hprefix
          exact if_neg (Bool.eq_false_iff.1 hfailed)
  | cons o others ih =>
      intro log commands hprefix hgood hfailed
      cases commands with
      | nil => exact absurd hprefix (by simp)
      | cons c rest =>
          obtain ⟨rfl, hrest⟩ := List.cons_prefix_cons.1 hprefix
          have ho : o.outcome.succeeded = true := hgood o List.mem_cons_self
          refine (if_pos ho).trans (ih hrest (fun o' ho' => ?_) hfailed)
          exact hgood o' (List.mem_cons_of_mem o ho')

/-- The log file of the last of some commands that has one. -/
def lastLog (commands : List Command) : Option Path :=
  (commands.filterMap Command.log).getLast?

theorem lastLog_cons (c : Command) (rest : List Command) :
    lastLog (c :: rest) = (lastLog rest).or c.log := by
  unfold lastLog
  cases hlog : c.log with
  | none => rw [List.filterMap_cons_none hlog, Option.or_none]
  | some log =>
      rw [List.filterMap_cons_some hlog, List.getLast?_cons]
      cases (rest.filterMap Command.log).getLast? <;> rfl

/-- If none fails the last log file is recorded, of all commands or of those in front of a cut. -/
theorem outcomeFrom_of_good {name : String} {tries : List Try} :
    ∀ {log : Option Path} {commands : List Command}, tries.map Try.command <+: commands →
      (∀ t ∈ tries, t.succeeded = true) →
      outcomeFrom name log commands (tries.map Try.outcome) =
        { (if tries.map Try.command = commands then StepOutcome.passed name
            else StepOutcome.cancelled name) with
          log := (lastLog (tries.map Try.command)).or log } := by
  induction tries with
  | nil =>
      intro log commands _ _
      cases commands <;> rfl
  | cons t rest ih =>
      intro log commands hprefix hgood
      cases commands with
      | nil => exact absurd hprefix (by simp)
      | cons c others =>
          obtain ⟨rfl, hrest⟩ := List.cons_prefix_cons.1 hprefix
          obtain ⟨ht, hgood⟩ := List.forall_mem_cons.1 hgood
          have hfirst : t.outcome.succeeded = true := ht
          rw [List.map_cons, outcomeFrom, if_pos hfirst, ih hrest hgood]
          simp only [List.map_cons, List.cons.injEq, true_and, lastLog_cons, Option.or_assoc]

/-! ### Where the row ends -/

namespace Session

variable {runner : Runner} {s after : Session} {tries : List Try}

/-- Behind a command during which the run was cancelled none is handed over. -/
theorem Handed.not_cancels (h : s.Handed runner tries after) :
    ∀ t ∈ tries.dropLast, t.cancels = false := by
  intro t ht
  rcases List.eq_nil_or_concat' tries with rfl | ⟨others, last, rfl⟩
  · cases ht
  · rw [List.dropLast_concat] at ht
    have hopen := h.timely others last [] rfl
    rw [Bool.or_eq_false_iff, List.any_eq_false] at hopen
    exact Bool.eq_false_iff.2 (hopen.2 t ht)

/-- A run that is found cancelled was so before, or was cancelled during the last command. -/
theorem Handed.cancelled_cases (h : s.Handed runner tries after) (hafter : after.cancelled = true) :
    s.cancelled = true ∨ ∃ t, tries.getLast? = some t ∧ t.cancels = true := by
  rcases List.eq_nil_or_concat' tries with rfl | ⟨others, last, rfl⟩
  · rw [h.cancelled, List.any_nil, Bool.or_false] at hafter
    exact .inl hafter
  · have hothers : others.any Try.cancels = false := by
      rw [List.any_eq_false]
      intro t ht
      have hnot := h.not_cancels t (by rwa [List.dropLast_concat])
      exact Bool.eq_false_iff.1 hnot
    rw [h.cancelled, List.any_append, hothers, Bool.false_or, List.any_cons, List.any_nil,
      Bool.or_false, Bool.or_eq_true] at hafter
    exact hafter.imp_right fun hlast => ⟨last, List.getLast?_concat, hlast⟩

end Session

/-! ### Steps -/

/-- How a step ends and what is recorded of it, by the commands that were tried. -/
structure Step.Ended (runner : Runner) (step : Step) (s : Session) (tries : List Try)
    (after : Session) (o : StepOutcome) : Prop where
  /-- The first commands of the step were handed over in order and answered by the runner; none
  behind one that failed; and all of them, unless the last failed or the run was cancelled. -/
  tried : Tried runner step.commands s tries after
  /-- Only the last can have been running when the run was cancelled, -/
  watched : ∀ t ∈ tries.dropLast, t.cancels = false
  /-- and none was handed over if it was cancelled before. -/
  idle : s.cancelled = true → tries = []
  name : o.name = step.name
  /-- The step succeeds if every command was run and every one succeeded, -/
  success : o.success = true ↔
    tries.map Try.command = step.commands ∧ ∀ t ∈ tries, t.succeeded = true
  /-- and exactly then it has no exit code. -/
  exitCode : o.exitCode = none ↔ o.success = true
  /-- A command that failed is the last, and its exit code and log file are recorded. -/
  failed : ∀ t ∈ tries, t.succeeded = false →
    tries.getLast? = some t ∧ o.exitCode = some t.outcome.exitCode ∧ o.log = t.command.log
  /-- If none failed and not all were run, the run was cancelled right then. -/
  cut : (∀ t ∈ tries, t.succeeded = true) → tries.map Try.command ≠ step.commands →
    o.exitCode = some cancelledCode ∧
      (s.cancelled = true ∨ ∃ t, tries.getLast? = some t ∧ t.cancels = true)
  /-- If none failed, the last log file that a command has is recorded. -/
  log : (∀ t ∈ tries, t.succeeded = true) → o.log = lastLog (tries.map Try.command)

section Ended

variable {runner : Runner} {step : Step} {s after : Session} {tries : List Try}

/-- A step that a command failed. -/
theorem Tried.ended_of_failed {others : List Try} {t : Try}
    (h : Tried runner step.commands s (others ++ [t]) after) (hfailed : t.succeeded = false) :
    step.Ended runner s (others ++ [t]) after (step.outcome ((others ++ [t]).map Try.outcome)) := by
  have hothers : ∀ o ∈ others, o.succeeded = true := by simpa using h.goesOn
  have houtcome : step.outcome ((others ++ [t]).map Try.outcome) =
      { StepOutcome.failed step.name t.outcome.exitCode with log := t.command.log } :=
    outcomeFrom_of_failed h.inOrder hothers hfailed
  have hnot : ¬ ∀ u ∈ others ++ [t], u.succeeded = true := by
    intro hgood
    rw [hgood t (by simp)] at hfailed
    cases hfailed
  rw [houtcome]
  exact {
    tried := h
    watched := h.handed.not_cancels
    idle := h.handed.eq_nil
    name := rfl
    success := iff_of_false Bool.false_ne_true fun hall => hnot hall.2
    exitCode := by simp [StepOutcome.failed]
    failed := by
      intro u hu hbad
      rcases List.mem_append.1 hu with hu | hu
      · rw [hothers u hu] at hbad
        cases hbad
      · rw [List.mem_singleton.1 hu]
        exact ⟨List.getLast?_concat, rfl, rfl⟩
    cut := fun hgood => absurd hgood hnot
    log := fun hgood => absurd hgood hnot }

/-- A step of which no command failed. -/
theorem Tried.ended_of_good (h : Tried runner step.commands s tries after)
    (hgood : ∀ t ∈ tries, t.succeeded = true) :
    step.Ended runner s tries after (step.outcome (tries.map Try.outcome)) := by
  have houtcome : step.outcome (tries.map Try.outcome) =
      { (if tries.map Try.command = step.commands then StepOutcome.passed step.name
          else StepOutcome.cancelled step.name) with log := lastLog (tries.map Try.command) } := by
    rw [Step.outcome, outcomeFrom_of_good h.inOrder hgood, Option.or_none]
  rw [houtcome]
  have hcut : tries.map Try.command ≠ step.commands → after.cancelled = true := by
    intro hshort
    rcases h.stops with hall | ⟨t, hlast, hbad⟩ | hcancelled
    · exact absurd hall hshort
    · rw [hgood t (List.mem_of_getLast? hlast)] at hbad
      cases hbad
    · exact hcancelled
  exact {
    tried := h
    watched := h.handed.not_cancels
    idle := h.handed.eq_nil
    name := by split <;> rfl
    success := by
      by_cases hall : tries.map Try.command = step.commands
      · rw [if_pos hall]
        exact iff_of_true rfl ⟨hall, hgood⟩
      · rw [if_neg hall]
        exact iff_of_false Bool.false_ne_true fun h => hall h.1
    exitCode := by split <;> simp [StepOutcome.passed, StepOutcome.cancelled, StepOutcome.failed]
    failed := by
      intro t ht hbad
      rw [hgood t ht] at hbad
      cases hbad
    cut := by
      intro _ hshort
      rw [if_neg hshort]
      exact ⟨rfl, h.handed.cancelled_cases (hcut hshort)⟩
    log := fun _ => rfl }

end Ended

/-- **What is recorded of a step**, for every step, every runner and every moment at which the run is
cancelled: as `Step.Ended` says, by the commands that were handed over. -/
theorem runStep_ended (runner : Runner) (v : Voice) (step : Step) (s : Session) :
    ∃ tries, step.Ended runner s tries (runStep runner v step s).1 (runStep runner v step s).2 := by
  obtain ⟨tries, htried, houtcome⟩ := runStep_tried runner v step s
  refine ⟨tries, ?_⟩
  rw [houtcome]
  by_cases hlast : ∃ t, tries.getLast? = some t ∧ t.succeeded = false
  · obtain ⟨t, ht, hfailed⟩ := hlast
    obtain ⟨others, rfl⟩ := List.getLast?_eq_some_iff.1 ht
    exact htried.ended_of_failed hfailed
  · exact htried.ended_of_good (all_succeeded htried.goesOn hlast)

/-- A command that fails without a log file leaves none, whatever was logged before it. -/
example : Step.outcome ⟨"lint", "", [⟨"fmt", [], .ofText ".", some (.ofText "fmt.log")⟩,
    ⟨"clippy", [], .ofText ".", none⟩]⟩ [.exited 0, .exited 1] = .failed "lint" 1 := by decide

end CheckMatrix
