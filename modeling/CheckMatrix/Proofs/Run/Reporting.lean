/-
What a run comes to once it is executed.

A sink takes a text when all of its bytes fit in, and writing succeeds exactly then; two texts
written one after the other fit in when the text that they make does.  With this, reporting succeeds
exactly when the sink takes everything that there is to report and can be flushed.  Why a sink
refuses a byte makes no difference to a run, only how many it took before, so a limit stands for
whatever can happen to it.

`run_performed` puts the pieces of a run together.  Behind a plan there is no way but through all
of its steps to a report, and whether the report arrives is up to the sink alone.
-/
import CheckMatrix.Proofs.Run.Execution
import Mathlib.Data.List.TakeDrop

namespace CheckMatrix

/-! ### Sinks -/

namespace Sink

/-- All of a text fits in. -/
def Takes (s : Sink) (text : String) : Prop :=
  s.accepted (Text.encode text.toList) = Text.encode text.toList

/-- The sink behind a text that it took. -/
def taking (s : Sink) (text : String) : Sink :=
  { s with received := s.received ++ Text.encode text.toList }

theorem accepted_eq_iff {s : Sink} {bytes : List UInt8} :
    s.accepted bytes = bytes ↔ (s.accepted bytes).length = bytes.length := by
  refine ⟨fun h => congrArg List.length h, fun h => ?_⟩
  unfold accepted at h ⊢
  split
  · rfl
  · rename_i limit hlimit
    rw [hlimit] at h
    exact (List.take_prefix _ _).eq_of_length h

theorem write_of_takes {s : Sink} {text : String} (h : s.Takes text) :
    s.write text = (s.taking text, .ok ()) := by
  unfold write
  simp only
  rw [if_pos (accepted_eq_iff.1 h), h]
  rfl

theorem write_eq_ok_iff {s : Sink} {text : String} :
    (s.write text).2 = .ok () ↔ s.Takes text := by
  refine ⟨fun h => ?_, fun h => by rw [write_of_takes h]⟩
  unfold write at h
  simp only at h
  split at h
  · rename_i hlength
    exact accepted_eq_iff.2 hlength
  · cases h

theorem takes_iff_length {s : Sink} {text : String} : s.Takes text ↔
    ∀ limit, s.limit = some limit →
      (Text.encode text.toList).length ≤ limit - s.received.length := by
  unfold Takes accepted
  cases hlimit : s.limit with
  | none => simp
  | some limit => simp [List.take_eq_self_iff]

theorem encode_append (a b : String) :
    Text.encode (a ++ b).toList = Text.encode a.toList ++ Text.encode b.toList := by
  unfold Text.encode
  rw [String.toList_append, List.flatMap_append]

/-- Two texts fit in one after the other when they fit in together. -/
theorem takes_append_iff {s : Sink} {a b : String} :
    s.Takes (a ++ b) ↔ s.Takes a ∧ (s.taking a).Takes b := by
  rw [takes_iff_length, takes_iff_length, takes_iff_length, encode_append, List.length_append]
  unfold taking
  simp only [List.length_append]
  constructor
  · intro h
    exact ⟨fun limit hlimit => by have := h limit hlimit; omega,
      fun limit hlimit => by have := h limit hlimit; omega⟩
  · rintro ⟨hfirst, hsecond⟩ limit hlimit
    have := hfirst limit hlimit
    have := hsecond limit hlimit
    omega

theorem taking_append (s : Sink) (a b : String) :
    (s.taking a).taking b = s.taking (a ++ b) := by
  unfold taking
  simp only [encode_append, List.append_assoc]

end Sink

/-! ### Reports -/

/-- The report over a ledger that is not empty. -/
theorem Report.ofLedger_eq {l : Ledger} (hne : l.outcomes ≠ []) :
    Report.ofLedger l = .ok
      ⟨String.join (l.outcomes.map stepLine) ++ verdictLine (l.outcomes.all StepOutcome.success),
        if l.outcomes.all StepOutcome.success then 0 else 1⟩ := by
  unfold ofLedger
  rw [Ledger.verdict_eq hne]

/-- There is no report over an empty ledger. -/
theorem Report.outcomes_ne_nil {l : Ledger} {r : Report} (h : Report.ofLedger l = .ok r) :
    l.outcomes ≠ [] := by
  intro hnil
  simp [ofLedger, Ledger.verdict, hnil] at h

/-- The exit code of a report says whether every step succeeded. -/
theorem Report.exitCode_of_ofLedger {l : Ledger} {r : Report} (h : Report.ofLedger l = .ok r) :
    r.exitCode = if l.outcomes.all StepOutcome.success then 0 else 1 := by
  rw [Report.ofLedger_eq (Report.outcomes_ne_nil h)] at h
  cases h
  rfl

/-- A report says nothing but zero and one. -/
theorem Report.exitCode_eq {l : Ledger} {r : Report} (h : Report.ofLedger l = .ok r) :
    r.exitCode = 0 ∨ r.exitCode = 1 := by
  rw [Report.exitCode_of_ofLedger h]
  split
  · exact Or.inl rfl
  · exact Or.inr rfl

theorem Report.write_of_takes {v : Voice} {r : Report} {s : Sink} (htakes : s.Takes (r.written v))
    (hflush : s.flushFails = false) : r.write v s = (s.taking (r.written v), .ok ()) := by
  have hgoes : (s.taking (r.written v)).flush = .ok () := if_neg (by simp [Sink.taking, hflush])
  unfold write
  rw [Sink.write_of_takes htakes]
  simp only
  rw [hgoes]

theorem Report.takes_of_write {v : Voice} {r : Report} {s : Sink} (h : (r.write v s).2 = .ok ()) :
    s.Takes (r.written v) ∧ s.flushFails = false := by
  unfold write at h
  split at h
  · rename_i after hwrite
    have htakes : s.Takes (r.written v) := Sink.write_eq_ok_iff.1 (by rw [hwrite])
    rw [Sink.write_of_takes htakes] at hwrite
    obtain ⟨rfl, -⟩ := Prod.mk.inj hwrite
    refine ⟨htakes, ?_⟩
    by_contra hfails
    have hflush : (s.taking (r.written v)).flush = .error ⟨"flush failed"⟩ :=
      if_pos (by simpa [Sink.taking] using hfails)
    rw [hflush] at h
    cases h
  · rename_i hrefused
    exact (hrefused _ (Prod.ext rfl h)).elim

namespace Conductor

variable {k : Conductor} {config : Config} {selection : Selection} {root : Path} {s : Session}
  {sink : Sink} {p : Plan}

/-- Everything that reporting on a ledger writes. -/
def reportText (k : Conductor) (t : FileTree) (l : Ledger) (r : Report) : String :=
  r.written k.reporting ++ failureDetails k.reporting t l

theorem writeReport_of_takes {t : FileTree} {l : Ledger} {r : Report}
    (htakes : sink.Takes (k.reportText t l r)) (hflush : sink.flushFails = false) :
    k.writeReport t l r sink = (sink.taking (k.reportText t l r), .ok ()) := by
  obtain ⟨hreport, hdetails⟩ := Sink.takes_append_iff.1 htakes
  unfold writeReport writeFailureDetails
  rw [Report.write_of_takes hreport hflush]
  simp only
  rw [Sink.write_of_takes hdetails, Sink.taking_append]
  rfl

/-- Reporting succeeds exactly when the sink takes all of it and can be flushed. -/
theorem writeReport_eq_ok_iff {t : FileTree} {l : Ledger} {r : Report} :
    (k.writeReport t l r sink).2 = .ok () ↔
      sink.Takes (k.reportText t l r) ∧ sink.flushFails = false := by
  refine ⟨fun h => ?_, fun h => by rw [writeReport_of_takes h.1 h.2]⟩
  unfold writeReport at h
  split at h
  · cases h
  · rename_i after hwrite
    have hok : (r.write k.reporting sink).2 = .ok () := by rw [hwrite]
    obtain ⟨hreport, hflush⟩ := Report.takes_of_write hok
    rw [Report.write_of_takes hreport hflush] at hwrite
    obtain ⟨rfl, -⟩ := Prod.mk.inj hwrite
    exact ⟨Sink.takes_append_iff.2 ⟨hreport, Sink.write_eq_ok_iff.1 h⟩, hflush⟩

/-! ### A run behind its plan -/

/-- The session in which the execution of a plan starts. -/
def begun (k : Conductor) (p : Plan) (s : Session) : Session :=
  k.sayPlan p (s.enter .expanding)

theorem begun_handed {runner : Runner} (k : Conductor) (p : Plan) (s : Session) :
    s.Handed runner [] (k.begun p s) :=
  (s.enter_handed _).trans (Session.say_handed _ _)

/-- Cleaning up removes files and says which of them stay; nothing else of a session changes. -/
theorem cleanUp_eq (notice : Path × FileError → String) (g : LogGuard) (s : Session) :
    ∃ shown, cleanUp notice g s = { s with tree := (g.cleanup s.tree).1, shown } := by
  have hwarned : ∀ (failed : List (Path × FileError)) (t : Session), ∃ shown,
      failed.foldl (fun u failure => u.warn (notice failure)) t = { t with shown } := by
    intro failed
    induction failed with
    | nil => exact fun t => ⟨t.shown, rfl⟩
    | cons failure rest ih =>
        intro t
        obtain ⟨shown, h⟩ := ih (t.warn (notice failure))
        exact ⟨shown, h⟩
  exact hwarned _ _

/-- Why there is no plan tells why there is no result. -/
theorem ofPlan_inj {e e' : PlanError} : RunError.ofPlan e = .ofPlan e' ↔ e = e' := by
  cases e <;> cases e' <;> simp [RunError.ofPlan]

/-- A run without a plan ends where it began. -/
theorem run_of_refused {e : PlanError}
    (hp : CheckMatrix.plan k.process s.tree config selection root = .error e) :
    k.run config selection root s sink = (s.enter .expanding, sink, .error (.ofPlan e)) := by
  unfold run plan
  rw [hp]

/-- A run that has a plan performs it. -/
theorem run_of_plan (hp : CheckMatrix.plan k.process s.tree config selection root = .ok p) :
    k.run config selection root s sink = k.perform p (k.begun p s) sink := by
  unfold run plan
  rw [hp]
  rfl

/-- The session in which the execution of a plan ends. -/
def ended (k : Conductor) (p : Plan) (s : Session) : Session :=
  (k.execute p (k.begun p s)).1

/-- What a run comes to that performs a plan. -/
structure Performed (k : Conductor) (p : Plan) (s : Session) (sink : Sink)
    (attempts : List Attempt) (l : Ledger) (r : Report) : Prop where
  executed : k.Executed p (k.begun p s) attempts l
  reported : Report.ofLedger l = .ok r
  /-- No command is run behind the execution. -/
  commands : (k.perform p (k.begun p s) sink).1.commands = (k.ended p s).commands
  received : (k.perform p (k.begun p s) sink).2.1 =
    (k.writeReport (k.ended p s).tree l r sink).1
  /-- The report arrives, and then the run has a result, -/
  accepted : (k.writeReport (k.ended p s).tree l r sink).2 = .ok () →
    (k.perform p (k.begun p s) sink).2.2 = .ok ⟨l, r⟩
  /-- or it does not, and that is the error. -/
  refused : ∀ e, (k.writeReport (k.ended p s).tree l r sink).2 = .error e →
    (k.perform p (k.begun p s) sink).2.2 = .error (.report e)

namespace Performed

variable {attempts : List Attempt} {l : Ledger} {r : Report}

/-- The tries of a run start where the run starts. -/
theorem handed (h : k.Performed p s sink attempts l r) :
    s.Handed k.runner (attempts.flatMap Attempt.tries) (k.ended p s) :=
  (k.begun_handed p s).trans h.executed.attempted.handed

/-- A run has a result exactly when the sink takes the report, and then it is this one. -/
theorem result_iff (h : k.Performed p s sink attempts l r) {summary : RunSummary} :
    (k.perform p (k.begun p s) sink).2.2 = .ok summary ↔ summary = ⟨l, r⟩ ∧
      sink.Takes (k.reportText (k.ended p s).tree l r) ∧ sink.flushFails = false := by
  rw [← writeReport_eq_ok_iff]
  constructor
  · intro hresult
    cases hwrite : (k.writeReport (k.ended p s).tree l r sink).2 with
    | ok u =>
        rw [h.accepted hwrite] at hresult
        cases hresult
        exact ⟨rfl, rfl⟩
    | error e =>
        rw [h.refused e hwrite] at hresult
        cases hresult
  · rintro ⟨rfl, hwrite⟩
    exact h.accepted hwrite

/-- Behind a plan nothing is to blame that keeps a run from having one. -/
theorem result_ne_ofPlan (h : k.Performed p s sink attempts l r) (e : PlanError) :
    (k.perform p (k.begun p s) sink).2.2 ≠ .error (.ofPlan e) := by
  intro hresult
  cases hwrite : (k.writeReport (k.ended p s).tree l r sink).2 with
  | ok u =>
      rw [h.accepted hwrite] at hresult
      cases hresult
  | error e' =>
      rw [h.refused e' hwrite] at hresult
      cases e <;> cases hresult

end Performed

/-- A run whose report arrives. -/
theorem perform_of_accepted {after : Session} {l : Ledger} {r : Report} {written : Sink}
    (hdone : k.execute p s = (after, .ok l)) (hreported : Report.ofLedger l = .ok r)
    (hwrite : k.writeReport after.tree l r sink = (written, .ok ())) :
    k.perform p s sink =
      ((cleanUp k.keptLogNotice (guard p) (after.enter .reporting)).enter .done, written,
        .ok ⟨l, r⟩) := by
  have htold : k.writeReport (after.enter .reporting).tree l r sink = (written, .ok ()) := hwrite
  simp only [perform, report, hdone, hreported, htold]

/-- A run whose report does not arrive. -/
theorem perform_of_refused {after : Session} {l : Ledger} {r : Report} {written : Sink}
    {e : SinkError} (hdone : k.execute p s = (after, .ok l)) (hreported : Report.ofLedger l = .ok r)
    (hwrite : k.writeReport after.tree l r sink = (written, .error e)) :
    k.perform p s sink =
      (cleanUp LogGuard.dropNotice (guard p) (after.enter .reporting), written,
        .error (.report e)) := by
  have htold : k.writeReport (after.enter .reporting).tree l r sink = (written, .error e) := hwrite
  simp only [perform, report, hdone, hreported, htold]

/-- What a run leaves on the trace once its report arrived, or did not. -/
def closing : Except RunError RunSummary → List Event
  | .ok _ => [.entered .done]
  | .error _ => []

/-- Whether the report arrives or not, nothing happens behind an execution but that its logs are
removed, phases are entered and lines are shown. -/
theorem perform_after {after : Session} {l : Ledger} {r : Report}
    (hdone : k.execute p s = (after, .ok l)) (hreported : Report.ofLedger l = .ok r)
    (sink : Sink) : ∃ shown, (k.perform p s sink).1 =
      { after with
        tree := ((guard p).cleanup after.tree).1
        trace := after.trace ++ .entered .reporting :: closing (k.perform p s sink).2.2
        shown } := by
  cases hwrite : k.writeReport after.tree l r sink with
  | mk written result =>
      cases result with
      | ok u =>
          obtain ⟨shown, hclean⟩ := cleanUp_eq k.keptLogNotice (guard p) (after.enter .reporting)
          rw [perform_of_accepted hdone hreported hwrite, hclean]
          refine ⟨shown, ?_⟩
          simp only [Session.enter, closing, List.append_assoc]
          rfl
      | error e =>
          obtain ⟨shown, hclean⟩ :=
            cleanUp_eq LogGuard.dropNotice (guard p) (after.enter .reporting)
          rw [perform_of_refused hdone hreported hwrite, hclean]
          exact ⟨shown, rfl⟩

/-- No command is run behind an execution. -/
theorem perform_commands {after : Session} {l : Ledger} {r : Report}
    (hdone : k.execute p s = (after, .ok l)) (hreported : Report.ofLedger l = .ok r)
    (sink : Sink) : (k.perform p s sink).1.commands = after.commands := by
  obtain ⟨shown, hperformed⟩ := perform_after hdone hreported sink
  rw [hperformed]
  unfold Session.commands
  simp only
  rw [List.filterMap_append]
  cases (k.perform p s sink).2.2 with
  | ok summary => exact List.append_nil _
  | error e => exact List.append_nil _

/-- **A run behind a plan goes through all of its steps to a report.** -/
theorem perform_performed (k : Conductor) (hp : p.WF) (s : Session) (sink : Sink) :
    ∃ attempts l r, k.Performed p s sink attempts l r := by
  obtain ⟨attempts, l, h⟩ := k.execute_executed hp (k.begun p s)
  obtain ⟨r, hreported⟩ : ∃ r, Report.ofLedger l = .ok r :=
    ⟨_, Report.ofLedger_eq (h.outcomes_ne_nil hp)⟩
  have hdone : k.execute p (k.begun p s) = (k.ended p s, .ok l) := Prod.ext rfl h.done
  have hcommands := perform_commands hdone hreported sink
  refine ⟨attempts, l, r, ?_⟩
  cases hwrite : k.writeReport (k.ended p s).tree l r sink with
  | mk written result =>
      cases result with
      | ok u =>
          have hran := perform_of_accepted hdone hreported hwrite
          refine ⟨h, hreported, hcommands, ?_, ?_, ?_⟩
          · rw [hran, hwrite]
          · intro _
            rw [hran]
          · intro e he
            rw [hwrite] at he
            cases he
      | error e =>
          have hran := perform_of_refused hdone hreported hwrite
          refine ⟨h, hreported, hcommands, ?_, ?_, ?_⟩
          · rw [hran, hwrite]
          · intro hok
            rw [hwrite] at hok
            cases hok
          · intro e' he'
            rw [hwrite] at he'
            cases he'
            rw [hran]

/-- The session that a run leaves behind its plan. -/
theorem Performed.session {attempts : List Attempt} {l : Ledger} {r : Report}
    (h : k.Performed p s sink attempts l r) :
    ∃ shown, (k.perform p (k.begun p s) sink).1 =
      { k.ended p s with
        tree := ((guard p).cleanup (k.ended p s).tree).1
        trace := (k.ended p s).trace ++
          .entered .reporting :: closing (k.perform p (k.begun p s) sink).2.2
        shown } :=
  perform_after (Prod.ext rfl h.executed.done) h.reported sink

end Conductor

end CheckMatrix
