/-
What a run leaves behind.

A run that gets to execute its plan ends in one of two ways, with a result or with a report that was
refused, and both clean up over the same guard.  The guard is a matter of the plan alone, so every
log that any command may write is on it before the first one runs.  `Swept` collects what follows
for the files: whoever runs the commands, whenever the run is cancelled and whatever the sink
refuses, no path of the guard leads to a file in the end, and nothing else was touched.

The guard keeps one spelling of each log.  If that is not the spelling of a file, `x/` in place of
`x`, removing it fails and the file stays, although a command of the plan named it properly
(`Sample.run_leaves_log`).  The field `logs` therefore asks the kept spelling to name a file.
-/
import CheckMatrix.Proofs.FileTree.Removal
import CheckMatrix.Proofs.Plan.Soundness
import CheckMatrix.Proofs.Run.FailureLogs

namespace CheckMatrix

theorem foldl_register (paths : List Path) :
    ∀ g : LogGuard, (paths.foldl LogGuard.register g).paths =
      paths.foldl (addNew Path.same) g.paths := by
  induction paths with
  | nil => exact fun _ => rfl
  | cons p rest ih => exact fun g => ih (g.register p)

namespace Conductor

variable {k : Conductor} {config : Config} {selection : Selection} {root : Path} {s : Session}
  {sink : Sink} {p : Plan} {attempts : List Attempt} {l : Ledger} {r : Report}

/-- The guard is over all log targets of the plan. -/
theorem guard_paths (p : Plan) : (guard p).paths = p.logTargets := by
  have hapart : ([] ++ p.logTargets).Pairwise fun x y => Path.same x y = false :=
    p.logTargets_keeps.apart
  rw [guard, foldl_register]
  exact foldl_addNew_of_apart hapart

/-- However a run ends behind its plan, it has cleaned up. -/
theorem Performed.tree (h : k.Performed p s sink attempts l r) :
    (k.perform p (k.begun p s) sink).1.tree = ((guard p).cleanup (k.ended p s).tree).1 := by
  obtain ⟨shown, hperformed⟩ := h.session
  rw [hperformed]

/-- A command that was run is a command of the plan. -/
theorem Executed.mem_commands {t : Try} (h : k.Executed p s attempts l)
    (ht : t ∈ attempts.flatMap Attempt.tries) : ∃ step ∈ p.steps, t.command ∈ step.commands := by
  obtain ⟨a, ha, hta⟩ := List.mem_flatMap.1 ht
  have hstep : a.step ∈ p.steps := h.steps ▸ List.mem_map_of_mem ha
  exact ⟨a.step, hstep, (h.attempted.inOrder a ha).subset (List.mem_map_of_mem hta)⟩

/-- What a run leaves behind that had some commands run. -/
structure Swept (k : Conductor) (p : Plan) (s : Session) (tries : List Try) (after : Session) :
    Prop where
  /-- The commands are on the record, -/
  commands : after.commands = s.commands ++ tries.map Try.command
  /-- and the runner answered them. -/
  answers : k.runner.tries s.commands s.tree (tries.map Try.command) = tries
  /-- The guard, which the plan alone decides, is over its log targets. -/
  guarded : (guard p).paths = p.logTargets
  /-- The log of every command that was run is one of them. -/
  registered : ∀ t ∈ tries, ∀ log, t.command.log = some log →
    ∃ q ∈ p.logTargets, q.same log = true
  /-- None of them leads to a file. -/
  gone : ∀ q ∈ p.logTargets, after.tree.isFile q = false
  /-- No log that a command of the plan may write is a file, as long as the spelling that was kept
  of it names a file. -/
  logs : ∀ step ∈ p.steps, ∀ log ∈ step.logs,
    (∀ q ∈ p.logTargets, q.same log = true → q.NamesFile) → after.tree.isFile log = false
  /-- What no command changed and no log target leads to is as it was. -/
  frame : ∀ l, (∀ t ∈ tries, t.reaction.tree.get? l = s.tree.get? l) →
    (∀ q ∈ p.logTargets, ∀ e, (treeLeft s.tree tries).resolve q .entry ≠ .ok (.found l e)) →
    after.tree.get? l = s.tree.get? l

/-- **A run sweeps up behind itself**, whatever its runner, its sink and its end are. -/
theorem run_sweeps (k : Conductor)
    (hp : CheckMatrix.plan k.process s.tree config selection root = .ok p) (sink : Sink) :
    ∃ tries, k.Swept p s tries (k.run config selection root s sink).1 := by
  obtain ⟨attempts, l, r, hran⟩ := k.perform_performed (plan_wf hp) s sink
  have hkeeps := p.logTargets_keeps
  have hhanded := hran.handed
  have htree := hran.tree
  rw [hhanded.tree] at htree
  refine ⟨attempts.flatMap Attempt.tries, ?_⟩
  rw [run_of_plan hp]
  refine ⟨?_, hhanded.answers, guard_paths p, ?_, ?_, ?_, ?_⟩
  · rw [hran.commands, hhanded.commands]
  · intro t ht log hlog
    obtain ⟨step, hstep, hcommand⟩ := hran.executed.mem_commands ht
    refine hkeeps.all log (List.mem_flatMap.2 ⟨step, hstep, ?_⟩)
    exact List.mem_filterMap.2 ⟨t.command, hcommand, hlog⟩
  · intro q hq
    rw [htree]
    exact (guard p).cleanup_gone _ q (guard_paths p ▸ hq)
  · intro step hstep log hlog hnames
    obtain ⟨q, hq, hsame⟩ := hkeeps.all log (List.mem_flatMap.2 ⟨step, hstep, hlog⟩)
    rw [htree]
    exact LogGuard.cleanup_gone_of_same (guard_paths p ▸ hq) (hnames q hq hsame)
      (Path.same_symm hsame)
  · intro l hunchanged hnone
    rw [htree, LogGuard.cleanup_frame (guard_paths p ▸ hnone)]
    exact treeLeft_of_forall (P := fun tree => tree.get? l = s.tree.get? l) rfl hunchanged

end Conductor

/-! ### Two logs, and two spellings of one -/

namespace Sample

/-- Both logs are gone behind the run that made them. -/
theorem run_sweeps_logs :
    CheckMatrix.plan writer.process tree (logging "check.log" "lint.log") .default root =
        .ok (loggingPlan "/check.log" "/lint.log") ∧
      ∃ tries, writer.Swept (loggingPlan "/check.log" "/lint.log") (.start tree) tries
        (writer.run (logging "check.log" "lint.log") .default root (.start tree) .unlimited).1 :=
  ⟨plan_logging, writer.run_sweeps (s := .start tree) plan_logging .unlimited⟩

theorem plan_spelling :
    CheckMatrix.plan ⟨[], none⟩ tree (logging "check.log/" "check.log") .default root =
      .ok (loggingPlan "/check.log/" "/check.log") :=
  eq_ok_of_toOption (by decide +kernel)

/-- The first step asks for a directory by the name of the log of the second one.  The two are the
same path, the first spelling is kept, and the file that the second command wrote stays, although
there is no link in the tree and the file could be removed. -/
theorem run_leaves_log :
    CheckMatrix.plan ⟨[], none⟩ tree (logging "check.log/" "check.log") .default root =
        .ok (loggingPlan "/check.log/" "/check.log") ∧
      (∃ step ∈ (loggingPlan "/check.log/" "/check.log").steps, .ofText "/check.log" ∈ step.logs) ∧
      ∃ after : Session,
        (writer.run (logging "check.log/" "check.log") .default root (.start tree) .unlimited).1 =
          after ∧
        after.tree.entries = [([.ofText "check.log"], .file (Text.encode "clippy\n".toList))] ∧
        after.tree.isFile (.ofText "/check.log") = true ∧
        (after.tree.removeFile (.ofText "/check.log")).toOption.isSome = true := by
  have hwf := plan_wf plan_spelling
  obtain ⟨attempts, l, r, hran⟩ := writer.perform_performed hwf (.start tree) .unlimited
  have htree := hran.tree
  rw [ended_of_writer hran, ← Conductor.run_of_plan (k := writer) (s := .start tree) plan_spelling]
    at htree
  refine ⟨plan_spelling, ⟨lintStep "/check.log", by simp [loggingPlan], by decide⟩, _, rfl, ?_⟩
  rw [htree]
  exact ⟨by decide +kernel, by decide +kernel, by decide +kernel⟩

end Sample

end CheckMatrix
