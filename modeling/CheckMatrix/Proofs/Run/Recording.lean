/-
What a ledger keeps of the outcomes that it is offered.

A ledger meets the outcomes one by one and goes by the names that it has written down.  What it holds
is then settled by the outcomes alone: those whose name does not occur in front of them, in order
(`firstOutcomes`).  Which names occurred is the same before and after the others are left out
(`mem_names_firstOutcomes`), so the name of the next outcome is taken exactly if it occurred at all.

All is by induction on the sequence from its end, where an outcome is offered to the ledger of those
in front of it (`outcomes_offerAll`).
-/
import CheckMatrix.Ledger
import CheckMatrix.Proofs.Distinct
import Mathlib.Data.List.Nodup

namespace CheckMatrix

/-! ### First occurrences -/

/-- The outcomes of a sequence, in order, without those whose name occurs in front of them. -/
def firstOutcomes (os : List StepOutcome) : List StepOutcome :=
  (os.zipIdx.filter fun (o, i) => o.name ∉ (os.take i).map StepOutcome.name).map Prod.fst

theorem firstOutcomes_eq_firsts (os : List StepOutcome) :
    firstOutcomes os = firsts (fun p q => p.name = q.name) os := by
  refine congrArg (List.map Prod.fst) (List.filter_congr ?_)
  rintro ⟨o, i⟩ -
  rw [Bool.eq_iff_iff, decide_eq_true_iff, Bool.not_eq_true', List.any_eq_false, List.mem_map]
  simp only [decide_eq_true_eq, not_exists, not_and]

/-- What comes last in a sequence is kept if its name is new. -/
theorem firstOutcomes_concat (os : List StepOutcome) (o : StepOutcome) :
    firstOutcomes (os ++ [o]) =
      firstOutcomes os ++ if o.name ∈ os.map StepOutcome.name then [] else [o] := by
  rw [firstOutcomes_eq_firsts, firstOutcomes_eq_firsts, firsts_concat]
  simp [List.mem_map]

/-- The names that occur are still there. -/
theorem mem_names_firstOutcomes {os : List StepOutcome} {name : String} :
    name ∈ (firstOutcomes os).map StepOutcome.name ↔ name ∈ os.map StepOutcome.name := by
  induction os using List.reverseRecOn with
  | nil => rfl
  | append_singleton os o ih =>
      rw [firstOutcomes_concat, List.map_append, List.map_append, List.mem_append, List.mem_append,
        ih]
      by_cases h : o.name ∈ os.map StepOutcome.name
      · have hold : name = o.name → name ∈ os.map StepOutcome.name := fun heq => heq ▸ h
        simp only [if_pos h, List.map_nil, List.not_mem_nil, or_false, List.map_singleton,
          List.mem_singleton]
        exact (or_iff_left_of_imp hold).symm
      · rw [if_neg h]

/-- The first outcome of a name is still the first. -/
theorem find?_firstOutcomes (os : List StepOutcome) (name : String) :
    (firstOutcomes os).find? (·.name = name) = os.find? (·.name = name) := by
  induction os using List.reverseRecOn with
  | nil => rfl
  | append_singleton os o ih =>
      rw [firstOutcomes_concat, List.find?_append, List.find?_append, ih]
      by_cases h : o.name ∈ os.map StepOutcome.name
      · rw [if_pos h, List.find?_nil, Option.or_none]
        by_cases hname : o.name = name
        · -- the outcome that is left out has another one of its name in front of it
          obtain ⟨first, hfirst, heq⟩ := List.mem_map.1 h
          have hsome : (os.find? (·.name = name)).isSome := by
            refine List.find?_isSome.2 ⟨first, hfirst, ?_⟩
            exact decide_eq_true (heq.trans hname)
          rw [Option.or_of_isSome hsome]
        · rw [List.find?_cons_of_neg (by simpa using hname), List.find?_nil, Option.or_none]
      · rw [if_neg h]

namespace Ledger

/-! ### Any ledger -/

section

variable {l : Ledger}

/-- **What is found under a name is the one outcome of that name.** -/
theorem get?_eq_some_iff {name : String} {o : StepOutcome} :
    l.get? name = some o ↔ o ∈ l.outcomes ∧ o.name = name := by
  constructor
  · intro h
    exact ⟨List.mem_of_find?_eq_some h, by simpa using List.find?_some h⟩
  · rintro ⟨hmem, rfl⟩
    cases hfound : l.get? o.name with
    | none =>
        have hmissing := List.find?_eq_none.1 hfound o hmem
        simp at hmissing
    | some other =>
        have hother := List.mem_of_find?_eq_some hfound
        have hname : other.name = o.name := by simpa using List.find?_some hfound
        rw [List.inj_on_of_nodup_map l.distinct hother hmem hname]

/-- A ledger that holds something has a verdict, which is whether nothing failed. -/
theorem verdict_eq_ite :
    l.verdict = if l.outcomes = [] then .error .emptyRun else .ok (l.failures = []) := by
  have hall : l.outcomes.all StepOutcome.success = decide (l.failures = []) := by
    rw [Bool.eq_iff_iff]
    simp [failures]
  unfold verdict
  by_cases h : l.outcomes = []
  · simp [h]
  · rw [if_neg (by simpa using h), if_neg h, hall]

end

/-! ### A new ledger -/

/-- The ledger that is left when outcomes are offered to a new one, one after the other. -/
def offerAll (os : List StepOutcome) : Ledger :=
  os.foldl (fun l o => (l.offer o).1) empty

theorem offerAll_concat (os : List StepOutcome) (o : StepOutcome) :
    offerAll (os ++ [o]) = ((offerAll os).offer o).1 := by
  rw [offerAll, List.foldl_append]
  rfl

/-- **A ledger holds the first outcome of each name.** -/
theorem outcomes_offerAll (os : List StepOutcome) :
    (offerAll os).outcomes = firstOutcomes os := by
  induction os using List.reverseRecOn with
  | nil => rfl
  | append_singleton os o ih =>
      have hnames : o.name ∈ (offerAll os).names ↔ o.name ∈ os.map StepOutcome.name := by
        rw [names, ih, mem_names_firstOutcomes]
      rw [offerAll_concat, firstOutcomes_concat]
      by_cases h : o.name ∈ os.map StepOutcome.name
      · rw [offer_of_taken (hnames.2 h), if_pos h, List.append_nil, ih]
      · obtain ⟨after, hoffer, hafter⟩ := offer_of_fresh (mt hnames.1 h)
        rw [hoffer, if_neg h, hafter, ih]

/-- The names of what it holds are all names that occurred. -/
theorem mem_names_offerAll {os : List StepOutcome} {name : String} :
    name ∈ (offerAll os).names ↔ name ∈ os.map StepOutcome.name := by
  rw [names, outcomes_offerAll, mem_names_firstOutcomes]

/-- A name is refused if it occurred. -/
theorem answer_offerAll (os : List StepOutcome) (o : StepOutcome) :
    ((offerAll os).offer o).2 =
      if o.name ∈ os.map StepOutcome.name then .error (.duplicateStep o.name) else .ok () := by
  by_cases h : o.name ∈ os.map StepOutcome.name
  · rw [if_pos h, offer_of_taken (mem_names_offerAll.2 h)]
  · obtain ⟨after, hoffer, -⟩ := offer_of_fresh (mt mem_names_offerAll.1 h)
    rw [if_neg h, hoffer]

/-- What a ledger has of the outcomes that it was offered, and what it says to the next. -/
structure KeepsFirst (l : Ledger) (os : List StepOutcome) : Prop where
  /-- It holds the outcomes whose names did not occur earlier, in order. -/
  outcomes : l.outcomes = firstOutcomes os
  /-- It refuses an outcome exactly if its name occurred, -/
  answer : ∀ o, (l.offer o).2 =
    if o.name ∈ os.map StepOutcome.name then .error (.duplicateStep o.name) else .ok ()
  /-- and then it is the same ledger as before, whatever it is asked. -/
  unchanged : ∀ o, o.name ∈ os.map StepOutcome.name → (l.offer o).1 = l
  /-- Recording is the same, but for a ledger that is refused along with the outcome. -/
  recorded : ∀ o, l.record o =
    if o.name ∈ os.map StepOutcome.name then .error (.duplicateStep o.name) else .ok (l.offer o).1
  /-- The names that are taken are those of the outcomes it holds, -/
  taken : ∀ name, name ∈ l.taken ↔ ∃ o ∈ l.outcomes, o.name = name
  /-- and these are all names that occurred. -/
  occurred : ∀ name, name ∈ l.taken ↔ ∃ o ∈ os, o.name = name
  /-- Under a name it has the only outcome of that name that it holds, -/
  found : ∀ name o, l.get? name = some o ↔ o ∈ l.outcomes ∧ o.name = name
  /-- which is the first that was offered. -/
  first : ∀ name, l.get? name = os.find? (·.name = name)
  /-- Over nothing there is no verdict, and else it is whether nothing failed. -/
  verdict : l.verdict = if l.outcomes = [] then .error .emptyRun else .ok (l.failures = [])

/-- **The ledger keeps the first outcome of each name**, whatever outcomes a new ledger is offered. -/
theorem offerAll_keepsFirst (os : List StepOutcome) : (offerAll os).KeepsFirst os where
  outcomes := outcomes_offerAll os
  answer := answer_offerAll os
  unchanged := by
    intro o h
    rw [offer_of_taken (mem_names_offerAll.2 h)]
  recorded := by
    intro o
    rw [record_eq, answer_offerAll]
    split <;> rfl
  taken := by
    intro name
    rw [taken_eq_names, names, List.mem_map]
  occurred := by
    intro name
    rw [taken_eq_names, mem_names_offerAll, List.mem_map]
  found := fun _ _ => get?_eq_some_iff
  first := by
    intro name
    rw [get?, outcomes_offerAll, find?_firstOutcomes]
  verdict := verdict_eq_ite

end Ledger

end CheckMatrix
