/-
A failing step does not touch the others.

What planning checked is all that is needed for an execution to reach the end of its plan, whatever
the runner answers.  In a run that is never cancelled every step is tried up to its own first
failure, and what is recorded of it comes from its own results; `Conductor.Isolated` collects this,
and `execute_isolated` shows it of every plan and every runner.

A cancellation stays.  A run that is not cancelled in the end was therefore never cancelled, which
is how the side condition is put.
-/
import CheckMatrix.Proofs.Run.Execution

namespace CheckMatrix

/-- The verdict is negative as soon as one step failed, wherever it stands. -/
theorem Ledger.verdict_false_iff {l : Ledger} (hne : l.outcomes ≠ []) :
    l.verdict = .ok false ↔ ∃ o ∈ l.outcomes, o.success = false := by
  rw [Ledger.verdict_eq hne, Except.ok.injEq, List.all_eq_false]
  simp

namespace Conductor

/-- An execution in which every step stands on its own. -/
structure Isolated (k : Conductor) (p : Plan) (s : Session) (l : Ledger)
    (attempts : List Attempt) : Prop where
  /-- There is one attempt per step of the plan, in order. -/
  steps : attempts.map Attempt.step = p.steps
  /-- There is one outcome per step, in order and under its name. -/
  names : l.names = p.steps.map Step.name
  /-- An outcome is made of a step and the results of that step's commands. -/
  outcomes : l.outcomes = attempts.map fun a => a.step.outcome (a.tries.map Try.outcome)
  /-- The commands of the attempts are handed over, one attempt after the other. -/
  commands : (k.execute p s).1.commands =
    s.commands ++ (attempts.flatMap Attempt.tries).map Try.command
  /-- Their results are what the runner answers. -/
  answers : k.runner.tries s.commands s.tree ((attempts.flatMap Attempt.tries).map Try.command) =
    attempts.flatMap Attempt.tries
  /-- A step is tried up to and including its first failure. -/
  upToFailure : ∀ a ∈ attempts, UpToFailure a.step.commands a.tries
  /-- A step fails exactly when one of its own commands does. -/
  failed : ∀ a ∈ attempts, (a.step.outcome (a.tries.map Try.outcome)).success = false ↔
    ∃ t ∈ a.tries, t.succeeded = false
  /-- The verdict is negative exactly when a step failed. -/
  verdict : ∃ passed, l.verdict = .ok passed ∧
    (passed = false ↔ ∃ o ∈ l.outcomes, o.success = false)

/-- **A failure ends its step and nothing else.**  A plan is executed to its end in any run that is
never cancelled, and every step stands on its own. -/
theorem execute_isolated {process : ProcessEnv} {tree : FileTree} {config : Config}
    {selection : Selection} {root : Path} {p : Plan}
    (hp : CheckMatrix.plan process tree config selection root = .ok p) (k : Conductor) (s : Session)
    (hnever : (k.execute p s).1.cancelled = false) :
    ∃ (l : Ledger) (attempts : List Attempt),
      (k.execute p s).2 = .ok l ∧ k.Isolated p s l attempts := by
  have hwf := plan_wf hp
  obtain ⟨attempts, l, h⟩ := k.execute_executed hwf s
  have hne := h.outcomes_ne_nil hwf
  have hup := h.attempted.upToFailure hnever
  refine ⟨l, attempts, h.done, {
    steps := h.steps
    names := h.names
    outcomes := h.outcomes
    commands := h.attempted.handed.commands
    answers := h.attempted.handed.answers
    upToFailure := hup
    failed := ?_
    verdict := ?_ }⟩
  · intro a ha
    have hsuccess := (hup a ha).success_iff
    rw [Attempt.outcome, ← not_iff_not] at hsuccess
    simpa using hsuccess
  · refine ⟨_, Ledger.verdict_eq hne, ?_⟩
    rw [← Ledger.verdict_false_iff hne, Ledger.verdict_eq hne, Except.ok.injEq]

end Conductor

/-! ### A run with failures in it -/

namespace Sample

/-- A configuration of three steps, the second of which keeps a log. -/
def config : Config where
  language := Config.defaultLanguage
  env := .empty
  defaultGroups := none
  axes := []
  groups := [⟨"workspace", "", [
    ⟨"format", none, [⟨"cargo fmt", none, none⟩, ⟨"cargo fix", none, none⟩]⟩,
    ⟨"lint", none, [⟨"cargo clippy", none, some "lint.log"⟩]⟩,
    ⟨"test", none, [⟨"cargo test", none, none⟩]⟩]⟩]

/-- A tree with nothing in it but the root directory. -/
def tree : FileTree := ⟨[], []⟩

/-- The root directory. -/
def root : Path := .ofText "/"

/-- One command of the plan. -/
def command (word : String) (log : Option String) : Command :=
  ⟨"cargo", [word], root, log.map Path.ofText⟩

/-- The plan for the configuration. -/
def plan : Plan where
  groups := ["workspace"]
  steps := [
    ⟨"format", "workspace", [command "fmt" none, command "fix" none]⟩,
    ⟨"lint", "workspace", [command "clippy" (some "/lint.log")]⟩,
    ⟨"test", "workspace", [command "test" none]⟩]

theorem plan_eq : CheckMatrix.plan ⟨[], none⟩ tree config .default root = .ok plan :=
  eq_ok_of_toOption (by decide +kernel)

/-- A runner under which one command fails, and another one may cancel the run. -/
def runner (failing : String) (cancelling : Option String) : Runner := fun _ tree c =>
  ⟨.exited (if c.args = [failing] then 1 else 0), tree, cancelling.any fun word => c.args = [word],
    [], ⟨0⟩⟩

/-- A conductor with that runner. -/
def conductor (failing : String) (cancelling : Option String) : Conductor where
  runner := runner failing cancelling
  process := ⟨[], none⟩
  narration := ⟨.english, false⟩
  reporting := ⟨.english, false⟩

/-- The first command of the first step fails: the second is left out, the other steps are run. -/
theorem execute_isolated_format :
    ((conductor "fmt" none).execute plan (.start tree)).1.cancelled = false ∧
      ∃ (l : Ledger) (attempts : List Attempt),
        ((conductor "fmt" none).execute plan (.start tree)).2 = .ok l ∧
          (conductor "fmt" none).Isolated plan (.start tree) l attempts :=
  have ⟨_, _, h⟩ := (conductor "fmt" none).execute_executed (plan_wf plan_eq) (.start tree)
  have hnever := h.open_of_never rfl fun _ _ _ => rfl
  ⟨hnever, Conductor.execute_isolated plan_eq _ _ hnever⟩

end Sample

end CheckMatrix
