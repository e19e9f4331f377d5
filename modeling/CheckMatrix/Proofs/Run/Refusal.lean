/-
Whatever keeps a run from a plan is found before anything happens.

Three places of a run can blame the configuration: planning, recording a step and reporting on an
empty ledger.  The last two come when commands have been run already.  They never do: a plan has
steps with different names, so recording is not refused and there is something to report on.  What
is left is planning, and a run that ends there has only noted that it began.  A run breaks off where
planning does, with as little done.
-/
import CheckMatrix.Proofs.Run.Reporting

namespace CheckMatrix.Conductor

/-- **The configuration is to blame exactly when planning says so**, with the same error, and a run
breaks off exactly when planning does.  Then the runner was not asked for anything, the sink and the
tree are as they were, and the run is still expanding.  Behind a plan neither recording nor
reporting blames the configuration, wherever the execution starts. -/
theorem run_config_error_iff (k : Conductor) (config : Config) (selection : Selection)
    (root : Path) (s : Session) (sink : Sink) :
    (∀ e, (k.run config selection root s sink).2.2 = .error (.ofPlan e) ↔
      CheckMatrix.plan k.process s.tree config selection root = .error e) ∧
    (∀ e, (k.run config selection root s sink).2.2 = .error (.ofPlan e) →
      (k.run config selection root s sink).1.commands = s.commands ∧
      (k.run config selection root s sink).1.tree = s.tree ∧
      (k.run config selection root s sink).1.phase = .expanding ∧
      (k.run config selection root s sink).2.1 = sink) ∧
    ∀ p, CheckMatrix.plan k.process s.tree config selection root = .ok p →
      ∀ start : Session, ∃ l r, (k.execute p start).2 = .ok l ∧ Report.ofLedger l = .ok r := by
  cases hp : CheckMatrix.plan k.process s.tree config selection root with
  | error e =>
      rw [run_of_refused hp]
      refine ⟨fun e' => ?_, fun e' _ => ?_, fun p hplanned => ?_⟩
      · simp [ofPlan_inj]
      · exact ⟨Session.enter_commands s _, rfl, Session.enter_phase s _, rfl⟩
      · cases hplanned
  | ok p =>
      have hwf := plan_wf hp
      rw [run_of_plan hp]
      obtain ⟨attempts, l, r, hran⟩ := k.perform_performed hwf s sink
      refine ⟨fun e => ?_, fun e hblamed => ?_, fun q hplanned start => ?_⟩
      · exact ⟨fun hblamed => absurd hblamed (hran.result_ne_ofPlan e), fun h => by cases h⟩
      · exact absurd hblamed (hran.result_ne_ofPlan e)
      · cases hplanned
        obtain ⟨attempts, l, h⟩ := k.execute_executed hwf start
        exact ⟨l, _, h.done, Report.ofLedger_eq (h.outcomes_ne_nil hwf)⟩

end CheckMatrix.Conductor
