/-
How the steps of a plan run, one after the other.

`executeFrom` runs a step and records what came of it before it goes on, and recording can be
refused.  `outcomesFrom` is the same loop without the ledger.  On steps with different names the
two agree and nothing is refused (`executeFrom_eq`), which is where the uniqueness that planning
checked is used up; after that a run of a plan is a list of attempts, one per step, each of them
some tries of the commands of its step.

Two loops with different ends lie inside each other here.  Within an attempt the tries stop at the
first failure (`UpToFailure`); across attempts nothing stops.  A step that is reached when the run
is cancelled is not treated apart: it is an attempt whose first command was not handed over, and
its outcome is the one that the results of no command make.  This needs that the step has a
command, the other thing that planning checked.
-/
import CheckMatrix.Proofs.Plan.WellFormed
import CheckMatrix.Proofs.Run.Steps
import CheckMatrix.Run.Orchestration

namespace CheckMatrix

/-! ### Attempts -/

/-- A step and the tries of its commands. -/
structure Attempt where
  step : Step
  tries : List Try

/-- What is recorded of an attempt.  Only the step and the results of its own commands count. -/
def Attempt.outcome (a : Attempt) : StepOutcome :=
  a.step.outcome (a.tries.map Try.outcome)

@[simp] theorem Attempt.outcome_name (a : Attempt) : a.outcome.name = a.step.name :=
  outcomeFrom_name

/-- Attempts follow one another. -/
inductive Attempted (runner : Runner) : Session → List Attempt → Session → Prop
  | nil (s : Session) : Attempted runner s [] s
  | cons {s mid after : Session} {a : Attempt} {others : List Attempt}
      (first : Tried runner a.step.commands s a.tries mid)
      (rest : Attempted runner mid others after) : Attempted runner s (a :: others) after

namespace Attempted

variable {runner : Runner} {s after : Session} {attempts : List Attempt}

theorem handed (h : Attempted runner s attempts after) :
    s.Handed runner (attempts.flatMap Attempt.tries) after := by
  induction h with
  | nil s => exact .idle rfl rfl rfl
  | cons first _ ih => exact first.handed.trans ih

theorem inOrder (h : Attempted runner s attempts after) :
    ∀ a ∈ attempts, a.tries.map Try.command <+: a.step.commands := by
  induction h with
  | nil s => simp
  | cons first _ ih =>
      intro a ha
      rcases List.mem_cons.1 ha with rfl | ha
      · exact first.inOrder
      · exact ih a ha

theorem goesOn (h : Attempted runner s attempts after) :
    ∀ a ∈ attempts, ∀ t ∈ a.tries.dropLast, t.succeeded = true := by
  induction h with
  | nil s => simp
  | cons first _ ih =>
      intro a ha
      rcases List.mem_cons.1 ha with rfl | ha
      · exact first.goesOn
      · exact ih a ha

/-- Every step is tried up to its first failure when the run is not cancelled. -/
theorem upToFailure (h : Attempted runner s attempts after) (hopen : after.cancelled = false) :
    ∀ a ∈ attempts, UpToFailure a.step.commands a.tries := by
  induction h with
  | nil s => simp
  | cons first rest ih =>
      intro a ha
      rcases List.mem_cons.1 ha with rfl | ha
      · exact first.upToFailure (rest.handed.open_of_open hopen)
      · exact ih hopen a ha

end Attempted

theorem Attempt.results_length {a : Attempt} (h : a.tries.map Try.command <+: a.step.commands) :
    (a.tries.map Try.outcome).length ≤ a.step.commands.length := by
  have hle := h.length_le
  rwa [List.length_map] at hle ⊢

/-- An attempt is a success when every command of the step was run and succeeded. -/
theorem Attempt.success_iff {a : Attempt} (h : a.tries.map Try.command <+: a.step.commands) :
    a.outcome.success = true ↔
      a.tries.map Try.command = a.step.commands ∧ ∀ t ∈ a.tries, t.succeeded = true := by
  unfold Attempt.outcome Step.outcome
  rw [outcomeFrom_success_iff (Attempt.results_length h), List.forall_mem_map, List.length_map]
  refine and_congr_left fun _ => ⟨fun hlength => ?_, fun hall => ?_⟩
  · exact h.eq_of_length (by rw [List.length_map, hlength])
  · rw [← hall, List.length_map]

/-- Commands that are tried up to a failure are all run unless one fails. -/
theorem UpToFailure.success_iff {a : Attempt} (h : UpToFailure a.step.commands a.tries) :
    a.outcome.success = true ↔ ∀ t ∈ a.tries, t.succeeded = true := by
  rw [Attempt.success_iff h.inOrder]
  exact ⟨And.right, fun hgood => ⟨h.all_of_succeeded hgood, hgood⟩⟩

/-- An outcome under a new name is recorded behind the others. -/
theorem Ledger.record_of_fresh {l : Ledger} {o : StepOutcome} (h : o.name ∉ l.names) :
    ∃ m : Ledger, l.record o = .ok m ∧ m.outcomes = l.outcomes ++ [o] := by
  obtain ⟨m, -, hm⟩ := offer_of_fresh h
  exact ⟨m, record_eq_ok_iff.2 ⟨h, hm⟩, hm⟩

/-- The verdict over a ledger that is not empty. -/
theorem Ledger.verdict_eq {l : Ledger} (hne : l.outcomes ≠ []) :
    l.verdict = .ok (l.outcomes.all StepOutcome.success) := by
  unfold verdict
  rw [if_neg fun hempty => hne (List.isEmpty_iff.1 hempty)]

/-! ### The loop without the ledger -/

namespace Conductor

variable {k : Conductor}

/-- One step of an execution, which is only noted once the run is cancelled. -/
def takeStep (k : Conductor) (index : Nat) (group : Option String) (step : Step) (s : Session) :
    Session × StepOutcome :=
  let s := s.enter (.executing index)
  if s.cancelled then (s, .cancelled step.name)
  else runStep k.runner k.narration step (k.sayGroup group step s)

/-- Executes steps without recording their outcomes. -/
def outcomesFrom (k : Conductor) :
    (index : Nat) → (group : Option String) → List Step → Session → Session × List StepOutcome
  | _, _, [], s => (s, [])
  | index, group, step :: rest, s =>
    let (mid, o) := k.takeStep index group step s
    let (after, others) := outcomesFrom k (index + 1)
      (if s.cancelled then group else groupAfter group step) rest mid
    (after, o :: others)

theorem outcomesFrom_cons (index : Nat) (group : Option String) (step : Step) (rest : List Step)
    (s : Session) :
    (k.outcomesFrom index group (step :: rest) s).2 =
      (k.takeStep index group step s).2 ::
        (k.outcomesFrom (index + 1) (if s.cancelled then group else groupAfter group step) rest
          (k.takeStep index group step s).1).2 := rfl

theorem takeStep_of_cancelled {index : Nat} {group : Option String} {step : Step} {s : Session}
    (hcancelled : s.cancelled = true) :
    k.takeStep index group step s = (s.enter (.executing index), .cancelled step.name) := by
  have hthen : (s.enter (.executing index)).cancelled = true := hcancelled
  unfold takeStep
  simp only [hthen, if_pos]

theorem takeStep_of_open {index : Nat} {group : Option String} {step : Step} {s : Session}
    (hopen : s.cancelled = false) :
    k.takeStep index group step s =
      runStep k.runner k.narration step (k.sayGroup group step (s.enter (.executing index))) := by
  have hthen : (s.enter (.executing index)).cancelled = false := hopen
  unfold takeStep
  simp only [hthen, Bool.false_eq_true, if_false]

theorem sayGroup_handed {runner : Runner} (k : Conductor) (group : Option String) (step : Step)
    (s : Session) : s.Handed runner [] (k.sayGroup group step s) := by
  unfold sayGroup
  split
  · exact .idle rfl rfl rfl
  · exact (s.say_handed _).trans (Session.say_handed _ _)

theorem takeStep_tried (k : Conductor) (index : Nat) (group : Option String) {step : Step}
    (hbusy : step.commands ≠ []) (s : Session) : ∃ tries,
      Tried k.runner step.commands s tries (k.takeStep index group step s).1 ∧
        (k.takeStep index group step s).2 = (Attempt.mk step tries).outcome := by
  by_cases hcancelled : s.cancelled = true
  · rw [takeStep_of_cancelled hcancelled]
    refine ⟨[], .nil_of_cancelled hcancelled (s.enter_handed _), ?_⟩
    -- the results of no command make a cancelled outcome, since there is a command
    unfold Attempt.outcome Step.outcome
    cases hcommands : step.commands with
    | nil => exact absurd hcommands hbusy
    | cons c rest => rfl
  · rw [takeStep_of_open (Bool.eq_false_iff.2 hcancelled)]
    obtain ⟨tries, htried, houtcome⟩ := runStep_tried k.runner k.narration step
      (k.sayGroup group step (s.enter (.executing index)))
    refine ⟨tries, htried.between ?_ (.idle rfl rfl rfl), houtcome⟩
    exact (s.enter_handed _).trans (k.sayGroup_handed group step _)

theorem outcomesFrom_attempted {steps : List Step} (hbusy : ∀ step ∈ steps, step.commands ≠ []) :
    ∀ (index : Nat) (group : Option String) (s : Session), ∃ attempts : List Attempt,
      attempts.map Attempt.step = steps ∧
        Attempted k.runner s attempts (k.outcomesFrom index group steps s).1 ∧
        (k.outcomesFrom index group steps s).2 = attempts.map Attempt.outcome := by
  induction steps with
  | nil =>
      intro index group s
      exact ⟨[], rfl, .nil s, rfl⟩
  | cons step rest ih =>
      intro index group s
      obtain ⟨tries, htried, houtcome⟩ :=
        k.takeStep_tried index group (hbusy step List.mem_cons_self) s
      obtain ⟨others, hsteps, hattempted, houtcomes⟩ :=
        ih (fun step' h => hbusy step' (List.mem_cons_of_mem step h)) (index + 1)
          (if s.cancelled then group else groupAfter group step) (k.takeStep index group step s).1
      refine ⟨⟨step, tries⟩ :: others, ?_, .cons htried hattempted, ?_⟩
      · rw [List.map_cons, hsteps]
      · rw [List.map_cons, ← houtcome, ← houtcomes]
        rfl

/-! ### Recording -/

theorem takeStep_name (k : Conductor) (index : Nat) (group : Option String) (step : Step)
    (s : Session) : (k.takeStep index group step s).2.name = step.name := by
  by_cases hcancelled : s.cancelled = true
  · rw [takeStep_of_cancelled hcancelled]
    rfl
  · rw [takeStep_of_open (Bool.eq_false_iff.2 hcancelled)]
    obtain ⟨tries, -, houtcome⟩ := runStep_tried k.runner k.narration step
      (k.sayGroup group step (s.enter (.executing index)))
    rw [houtcome]
    exact outcomeFrom_name

/-- The loop goes on behind a step whose outcome could be recorded. -/
theorem executeFrom_cons {index : Nat} {group : Option String} {step : Step} {rest : List Step}
    {l m : Ledger} {s : Session} (hrecord : l.record (k.takeStep index group step s).2 = .ok m) :
    k.executeFrom index group (step :: rest) l s =
      k.executeFrom (index + 1) (if s.cancelled then group else groupAfter group step) rest m
        (k.takeStep index group step s).1 := by
  rw [executeFrom]
  by_cases hcancelled : s.cancelled = true
  · have hthen : (s.enter (.executing index)).cancelled = true := hcancelled
    rw [takeStep_of_cancelled hcancelled] at hrecord ⊢
    simp only [if_pos hthen, if_pos hcancelled, hrecord]
  · have hthen : ¬ (s.enter (.executing index)).cancelled = true := hcancelled
    rw [takeStep_of_open (Bool.eq_false_iff.2 hcancelled)] at hrecord ⊢
    simp only [if_neg hthen, if_neg hcancelled, hrecord]

/-- **Recording is never refused on steps with different names.** -/
theorem executeFrom_eq {steps : List Step} :
    ∀ (index : Nat) (group : Option String) (l : Ledger) (s : Session),
      (steps.map Step.name).Nodup → (∀ name ∈ steps.map Step.name, name ∉ l.names) →
        ∃ m : Ledger, m.outcomes = l.outcomes ++ (k.outcomesFrom index group steps s).2 ∧
          k.executeFrom index group steps l s =
            ((k.outcomesFrom index group steps s).1, .ok m) := by
  induction steps with
  | nil =>
      intro index group l s _ _
      exact ⟨l, (List.append_nil _).symm, rfl⟩
  | cons step rest ih =>
      intro index group l s hdistinct hfresh
      obtain ⟨hstep, hrest⟩ := List.nodup_cons.1 hdistinct
      have hname := k.takeStep_name index group step s
      obtain ⟨m, hrecord, hm⟩ := Ledger.record_of_fresh (l := l)
        (o := (k.takeStep index group step s).2) (hname ▸ hfresh _ List.mem_cons_self)
      -- what is recorded now is the only new name, and no later step has it
      have hstill : ∀ name ∈ rest.map Step.name, name ∉ m.names := by
        intro name hmem hold
        rw [Ledger.names, hm, List.map_append, List.mem_append, List.map_singleton,
          List.mem_singleton, hname] at hold
        rcases hold with hold | rfl
        · exact hfresh name (List.mem_cons_of_mem _ hmem) hold
        · exact hstep hmem
      obtain ⟨last, hlast, hrun⟩ := ih (index + 1)
        (if s.cancelled then group else groupAfter group step) m (k.takeStep index group step s).1
        hrest hstill
      refine ⟨last, ?_, ?_⟩
      · rw [hlast, hm, List.append_assoc]
        rfl
      · rw [executeFrom_cons hrecord]
        exact hrun

/-- An execution ends with everything on the ledger that the loop without one finds. -/
theorem execute_eq (k : Conductor) {p : Plan} (hp : p.WF) (s : Session) :
    ∃ l : Ledger, l.outcomes = (k.outcomesFrom 0 none p.steps s).2 ∧
      k.execute p s = ((k.outcomesFrom 0 none p.steps s).1, .ok l) :=
  k.executeFrom_eq 0 none .empty s hp.distinct fun _ _ hmem => List.not_mem_nil hmem

/-- How an execution ends: with a ledger that holds the outcomes of one attempt per step, in
order. -/
structure Executed (k : Conductor) (p : Plan) (s : Session) (attempts : List Attempt)
    (l : Ledger) : Prop where
  done : (k.execute p s).2 = .ok l
  steps : attempts.map Attempt.step = p.steps
  attempted : Attempted k.runner s attempts (k.execute p s).1
  outcomes : l.outcomes = attempts.map Attempt.outcome

/-- **A plan that can be run is executed to its end.** -/
theorem execute_executed (k : Conductor) {p : Plan} (hp : p.WF) (s : Session) :
    ∃ attempts l, k.Executed p s attempts l := by
  obtain ⟨l, hl, hrun⟩ := k.execute_eq hp s
  obtain ⟨attempts, hsteps, hattempted, houtcomes⟩ :=
    k.outcomesFrom_attempted hp.busy 0 none s
  refine ⟨attempts, l, ?_, hsteps, ?_, ?_⟩
  · rw [hrun]
  · rw [hrun]
    exact hattempted
  · rw [hl, houtcomes]

namespace Executed

variable {p : Plan} {s : Session} {attempts : List Attempt} {l : Ledger}

/-- There is one outcome per step, in order and under its name. -/
theorem names (h : k.Executed p s attempts l) : l.names = p.steps.map Step.name := by
  rw [Ledger.names, h.outcomes, ← h.steps, List.map_map, List.map_map]
  exact List.map_congr_left fun a _ => a.outcome_name

theorem outcomes_ne_nil (h : k.Executed p s attempts l) (hp : p.WF) : l.outcomes ≠ [] := by
  intro hnil
  have hnames := h.names
  rw [Ledger.names, hnil, List.map_nil] at hnames
  exact hp.nonempty (List.map_eq_nil_iff.1 hnames.symm)

/-- An execution is not cancelled when it does not start so and no command cancels it. -/
theorem open_of_never (h : k.Executed p s attempts l) (hopen : s.cancelled = false)
    (hnever : ∀ past tree c, (k.runner past tree c).cancels = false) :
    (k.execute p s).1.cancelled = false :=
  h.attempted.handed.open_of_never hopen hnever

end Executed

end Conductor

end CheckMatrix
