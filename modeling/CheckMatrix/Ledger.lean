/-
The record of a run.

A ledger keeps the outcomes of steps in the order in which they were recorded, one per name.  Beside
them it keeps the names that are taken, so that a name need not be looked for among the outcomes; the
type carries that these are the names of the outcomes and that none occurs twice.  `offer` takes the
name of an outcome and then the outcome; the second outcome of a name is refused and leaves the ledger
as it is.  The verdict is over all outcomes, and there is none over nothing.
-/
import CheckMatrix.Command
import CheckMatrix.ConfigError

namespace CheckMatrix

/-- The outcomes of the steps of a run, each name at most once, and the names that are taken. -/
structure Ledger where
  outcomes : List StepOutcome
  taken : List String
  coupled : taken = outcomes.map StepOutcome.name
  distinct : (outcomes.map StepOutcome.name).Nodup

namespace Ledger

/-- The ledger of some outcomes with different names. -/
def ofOutcomes (outcomes : List StepOutcome)
    (distinct : (outcomes.map StepOutcome.name).Nodup) : Ledger :=
  ⟨outcomes, outcomes.map StepOutcome.name, rfl, distinct⟩

/-- The ledger without outcomes. -/
def empty : Ledger := ofOutcomes [] .nil

instance : Inhabited Ledger := ⟨empty⟩

/-- The names of the recorded steps. -/
def names (l : Ledger) : List String :=
  l.outcomes.map StepOutcome.name

theorem taken_eq_names (l : Ledger) : l.taken = l.names :=
  l.coupled

private theorem coupled_append {outcomes : List StepOutcome} {taken : List String}
    (h : taken = outcomes.map StepOutcome.name) (o : StepOutcome) :
    taken ++ [o.name] = (outcomes ++ [o]).map StepOutcome.name := by
  rw [List.map_append, h]
  rfl

private theorem distinct_append {outcomes : List StepOutcome} {o : StepOutcome}
    (h : (outcomes.map StepOutcome.name).Nodup) (fresh : o.name ∉ outcomes.map StepOutcome.name) :
    ((outcomes ++ [o]).map StepOutcome.name).Nodup := by
  rw [List.map_append, List.nodup_append]
  refine ⟨h, by simp, ?_⟩
  rintro name hname other hother rfl
  simp only [List.map_cons, List.map_nil, List.mem_singleton] at hother
  exact fresh (hother ▸ hname)

/-- Offers an outcome: it is recorded at the end unless its name is taken.  The ledger is the one that
is left either way. -/
def offer (l : Ledger) (o : StepOutcome) : Ledger × Except ConfigError Unit :=
  if h : o.name ∈ l.taken then (l, .error (.duplicateStep o.name))
  else
    ({ outcomes := l.outcomes ++ [o]
       taken := l.taken ++ [o.name]
       coupled := coupled_append l.coupled o
       distinct := distinct_append l.distinct (l.coupled ▸ h) }, .ok ())

/-- The ledger with one more outcome, unless its name is there. -/
def record (l : Ledger) (o : StepOutcome) : Except ConfigError Ledger :=
  match l.offer o with
  | (after, .ok ()) => .ok after
  | (_, .error e) => .error e

/-- The number of outcomes. -/
def size (l : Ledger) : Nat :=
  l.outcomes.length

/-- The outcome of a step. -/
def get? (l : Ledger) (name : String) : Option StepOutcome :=
  l.outcomes.find? (·.name = name)

/-- The outcomes of the steps that did not succeed. -/
def failures (l : Ledger) : List StepOutcome :=
  l.outcomes.filter fun o => !o.success

/-- Whether every step succeeded; there has to be one. -/
def verdict (l : Ledger) : Except ConfigError Bool :=
  if l.outcomes.isEmpty then .error .emptyRun else .ok (l.outcomes.all StepOutcome.success)

/-- A ledger is known by its outcomes. -/
theorem ext_outcomes {l m : Ledger} (h : l.outcomes = m.outcomes) : l = m := by
  obtain ⟨outcomes, taken, rfl, hdistinct⟩ := l
  obtain ⟨others, taken', rfl, hdistinct'⟩ := m
  cases h
  rfl

/-- An outcome under a taken name changes nothing. -/
theorem offer_of_taken {l : Ledger} {o : StepOutcome} (h : o.name ∈ l.names) :
    l.offer o = (l, .error (.duplicateStep o.name)) :=
  dif_pos (l.taken_eq_names ▸ h)

/-- An outcome under a new name is recorded behind the others. -/
theorem offer_of_fresh {l : Ledger} {o : StepOutcome} (h : o.name ∉ l.names) :
    ∃ m : Ledger, l.offer o = (m, .ok ()) ∧ m.outcomes = l.outcomes ++ [o] :=
  ⟨_, dif_neg (l.taken_eq_names ▸ h), rfl⟩

/-- Recording is an offer whose ledger is taken if it is not refused. -/
theorem record_eq (l : Ledger) (o : StepOutcome) :
    l.record o = (l.offer o).2.map fun _ => (l.offer o).1 := by
  unfold record
  rcases l.offer o with ⟨after, e | _⟩ <;> rfl

/-- Recording succeeds exactly for a new name, and adds the outcome at the end. -/
theorem record_eq_ok_iff {l m : Ledger} {o : StepOutcome} :
    l.record o = .ok m ↔ o.name ∉ l.names ∧ m.outcomes = l.outcomes ++ [o] := by
  unfold record
  by_cases h : o.name ∈ l.names
  · rw [offer_of_taken h]
    simp [h]
  · obtain ⟨after, hoffer, hafter⟩ := offer_of_fresh h
    rw [hoffer]
    simp only [Except.ok.injEq, h, not_false_eq_true, true_and]
    constructor
    · rintro rfl
      exact hafter
    · intro hm
      exact ext_outcomes (hafter.trans hm.symm)

end Ledger

end CheckMatrix
