/-
What a sink has received when it fails.

A report is written in many small pieces, and a sink may fail in any of them.  Where a text is cut
into pieces makes no difference to the sink (`write_append`): it takes what fits in, fails at the
first byte that does not, and is left alone from then on.  So all that is written up to the flush is
one text, and so is all that is written behind it; and unless the flush fails, the two are one
(`writeReport_eq_write`).  What a failing sink has received is therefore a beginning of what a sink
receives that takes everything (`report_received`).
-/
import CheckMatrix.Proofs.Run.Reporting

namespace CheckMatrix

namespace Sink

instance (s : Sink) (text : String) : Decidable (s.Takes text) :=
  inferInstanceAs (Decidable (s.accepted (Text.encode text.toList) = Text.encode text.toList))

/-! ### One text after the other -/

/-- A sink refuses a text because of its limit, which leaves no room for anything behind it. -/
theorem accepted_append_of_refused {s : Sink} {a : String} (h : ¬ s.Takes a)
    (bytes : List UInt8) :
    s.accepted (Text.encode a.toList ++ bytes) = s.accepted (Text.encode a.toList) := by
  rw [takes_iff_length] at h
  obtain ⟨limit, h⟩ := Classical.not_forall.1 h
  obtain ⟨hlimit, hlength⟩ := Classical.not_imp.1 h
  unfold accepted
  rw [hlimit]
  exact List.take_append_of_le_length (Nat.le_of_not_le hlength)

/-- Behind a text that it took, a sink has room for what still fits in. -/
theorem accepted_append_of_takes {s : Sink} {a : String} (h : s.Takes a) (bytes : List UInt8) :
    s.accepted (Text.encode a.toList ++ bytes) =
      Text.encode a.toList ++ (s.taking a).accepted bytes := by
  have hlength := takes_iff_length.1 h
  unfold accepted taking
  cases hlimit : s.limit with
  | none => rfl
  | some limit =>
      have hfits := hlength limit hlimit
      simp only [List.length_append]
      rw [List.take_append, List.take_of_length_le hfits, Nat.sub_sub]

/-- What a sink does with a text that it does not take. -/
theorem write_of_refused {s : Sink} {text : String} (h : ¬ s.Takes text) : s.write text =
    ({ s with received := s.received ++ s.accepted (Text.encode text.toList) },
      .error ⟨"disk full"⟩) := by
  unfold write
  simp only
  rw [if_neg fun hlength => h (accepted_eq_iff.2 hlength)]

/-- **Where a text is cut makes no difference to a sink.** -/
theorem write_append (s : Sink) (a b : String) :
    s.write (a ++ b) =
      match s.write a with
      | (after, .ok ()) => after.write b
      | refused => refused := by
  by_cases h : s.Takes a
  · rw [write_of_takes h]
    simp only
    by_cases hb : (s.taking a).Takes b
    · rw [write_of_takes hb, write_of_takes (takes_append_iff.2 ⟨h, hb⟩), taking_append]
    · have hboth : ¬ s.Takes (a ++ b) := fun hboth => hb (takes_append_iff.1 hboth).2
      rw [write_of_refused hb, write_of_refused hboth, encode_append, accepted_append_of_takes h]
      simp only [taking, List.append_assoc]
  · have hboth : ¬ s.Takes (a ++ b) := fun hboth => h (takes_append_iff.1 hboth).1
    rw [write_of_refused h, write_of_refused hboth, encode_append, accepted_append_of_refused h]

theorem write_empty (s : Sink) : s.write "" = (s, .ok ()) := by
  have htakes : s.Takes "" := takes_iff_length.2 fun limit _ => Nat.zero_le _
  rw [write_of_takes htakes]
  simp [taking, Text.encode]

/-! ### Calls -/

end Sink

/-- What a sink is asked for. -/
inductive SinkCall
  | write (text : String)
  | flush
  deriving DecidableEq, Repr

namespace Sink

/-- What a sink makes of one call, -/
def answer (s : Sink) : SinkCall → Sink × Except SinkError Unit
  | .write text => s.write text
  | .flush => (s, s.flush)

/-- and of calls one after the other, up to the first that fails. -/
def serve (s : Sink) : List SinkCall → Sink × Except SinkError Unit
  | [] => (s, .ok ())
  | call :: rest =>
    match s.answer call with
    | (after, .ok ()) => after.serve rest
    | refused => refused

/-- Pieces written one after the other are the text that they make. -/
theorem serve_writes (pieces : List String) (rest : List SinkCall) (s : Sink) :
    s.serve (pieces.map .write ++ rest) =
      match s.write (String.join pieces) with
      | (after, .ok ()) => after.serve rest
      | refused => refused := by
  induction pieces generalizing s with
  | nil =>
      rw [show String.join [] = "" from rfl, write_empty]
      rfl
  | cons piece others ih =>
      rw [String.join_cons, write_append, List.map_cons, List.cons_append, serve, answer]
      cases hwrite : s.write piece with
      | mk after result =>
          cases result with
          | ok u => exact ih after
          | error e => rfl

end Sink

/-! ### Reports -/

/-- The bytes of a report, as a sink receives them that takes everything. -/
def Report.bytes (v : Voice) (r : Report) : List UInt8 :=
  (r.write v .unlimited).1.received

theorem Report.bytes_eq (v : Voice) (r : Report) :
    r.bytes v = Text.encode (r.written v).toList := by
  have htakes : Sink.unlimited.Takes (r.written v) := rfl
  rw [bytes, write_of_takes htakes rfl]
  exact List.nil_append _

/-- If the flush fails, a report does not arrive, however much of it was written. -/
theorem Report.write_of_flushFails {v : Voice} {r : Report} {s : Sink}
    (hflush : s.flushFails = true) :
    r.write v s = ((s.write (r.written v)).1,
      .error (if s.Takes (r.written v) then ⟨"flush failed"⟩ else ⟨"disk full"⟩)) := by
  unfold write
  by_cases h : s.Takes (r.written v)
  · have hfails : (s.taking (r.written v)).flush = .error ⟨"flush failed"⟩ := if_pos hflush
    rw [Sink.write_of_takes h, if_pos h]
    simp only
    rw [hfails]
  · rw [Sink.write_of_refused h, if_neg h]

namespace Conductor

variable {k : Conductor} {t : FileTree} {l : Ledger} {r : Report} {sink : Sink}

/-- Unless the flush fails, reporting is writing one text. -/
theorem writeReport_eq_write (hflush : sink.flushFails = false) :
    k.writeReport t l r sink = sink.write (k.reportText t l r) := by
  rw [reportText, Sink.write_append]
  unfold writeReport writeFailureDetails
  by_cases h : sink.Takes (r.written k.reporting)
  · rw [Report.write_of_takes h hflush, Sink.write_of_takes h]
  · unfold Report.write
    rw [Sink.write_of_refused h]

/-- If the flush fails, nothing is written behind the report. -/
theorem writeReport_of_flushFails (hflush : sink.flushFails = true) :
    k.writeReport t l r sink = r.write k.reporting sink := by
  unfold writeReport
  rw [Report.write_of_flushFails hflush]

/-- Reporting is writing and flushing, in whatever pieces the texts are written. -/
theorem serve_pieces {before behind : List String}
    (hbefore : String.join before = r.written k.reporting)
    (hbehind : String.join behind = failureDetails k.reporting t l) (sink : Sink) :
    sink.serve (before.map .write ++ .flush :: behind.map .write) = k.writeReport t l r sink := by
  have hrest : ∀ after : Sink, after.serve (behind.map .write) =
      writeFailureDetails k.reporting t l after := by
    intro after
    rw [← List.append_nil (behind.map SinkCall.write), Sink.serve_writes, hbehind,
      writeFailureDetails]
    cases after.write (failureDetails k.reporting t l) with
    | mk final result => cases result <;> rfl
  rw [Sink.serve_writes, hbefore]
  unfold writeReport Report.write
  cases hwrite : sink.write (r.written k.reporting) with
  | mk after result =>
      cases result with
      | error e => rfl
      | ok u =>
          simp only
          rw [Sink.serve, Sink.answer]
          cases after.flush with
          | error e => rfl
          | ok u => exact hrest after

/-! ### Reporting -/

/-- Everything that is written about a ledger, as a sink receives it that takes everything. -/
def fullReport (k : Conductor) (l : Ledger) (s : Session) : List UInt8 :=
  (k.report l s .unlimited).2.1.received

theorem report_of_empty (hempty : l.outcomes = []) (s : Session) (sink : Sink) :
    k.report l s sink = (s.enter .reporting, sink, .error (.config .emptyRun)) := by
  have hnone : Report.ofLedger l = .error .emptyRun := by
    simp [Report.ofLedger, Ledger.verdict, hempty]
  unfold report
  rw [hnone]

/-- What a session and a sink are behind a report. -/
theorem report_eq (h : Report.ofLedger l = .ok r) (s : Session) (sink : Sink) :
    k.report l s sink = (s.enter .reporting, (k.writeReport s.tree l r sink).1,
      ((k.writeReport s.tree l r sink).2.mapError .report).map fun _ => r) := by
  unfold report
  rw [h]
  simp only [Session.enter]
  cases k.writeReport s.tree l r sink with
  | mk after result => cases result <;> rfl

theorem fullReport_eq (h : Report.ofLedger l = .ok r) (s : Session) :
    k.fullReport l s = Text.encode (k.reportText s.tree l r).toList := by
  have htakes : Sink.unlimited.Takes (k.reportText s.tree l r) := rfl
  rw [fullReport, report_eq h, writeReport_of_takes htakes rfl]
  exact List.nil_append _

/-- **A failing sink receives a prefix.**  Reporting on a ledger changes no file.  On an empty ledger
there is no report, and nothing is written.  On any other one, a sink that takes `n` bytes and then
fails receives the first `n` bytes of what a sink receives that takes everything, and the report
arrives exactly when there are no more.  If the flush fails, the report never arrives, and the sink
has received the first `n` bytes of what is written in front of the flush.  None of this depends on
the pieces in which the texts are written. -/
theorem report_received (k : Conductor) (l : Ledger) (s : Session) :
    (∀ sink, (k.report l s sink).1.tree = s.tree) ∧
    (l.outcomes = [] → ∀ sink, (k.report l s sink).2 = (sink, .error (.config .emptyRun))) ∧
    (l.outcomes ≠ [] → ∃ r, Report.ofLedger l = .ok r ∧
      (∀ n, (k.report l s ⟨some n, false, []⟩).2 =
        (⟨some n, false, (k.fullReport l s).take n⟩,
          if (k.fullReport l s).length ≤ n then .ok r else .error (.report ⟨"disk full"⟩))) ∧
      (∀ n, (k.report l s ⟨some n, true, []⟩).2 =
        (⟨some n, true, (r.bytes k.reporting).take n⟩,
          .error (.report
            (if (r.bytes k.reporting).length ≤ n then ⟨"flush failed"⟩ else ⟨"disk full"⟩)))) ∧
      r.bytes k.reporting <+: k.fullReport l s ∧
      ∀ before behind, String.join before = r.written k.reporting →
        String.join behind = failureDetails k.reporting s.tree l → ∀ sink,
          sink.serve (before.map .write ++ .flush :: behind.map .write) =
            k.writeReport s.tree l r sink) := by
  refine ⟨fun sink => ?_, fun hempty sink => ?_, fun hne => ?_⟩
  · cases h : Report.ofLedger l with
    | error e =>
        unfold report
        rw [h]
        rfl
    | ok r =>
        rw [report_eq h]
        rfl
  · rw [report_of_empty hempty]
  have hreport := Report.ofLedger_eq hne
  generalize hr : Report.mk _ _ = r at hreport
  have htaken : ∀ (n : Nat) (fails : Bool) (text : String),
      (⟨some n, fails, []⟩ : Sink).Takes text ↔ (Text.encode text.toList).length ≤ n := by
    intro n fails text
    rw [Sink.takes_iff_length]
    simp
  refine ⟨r, hreport, fun n => ?_, fun n => ?_, ?_, fun before behind hbefore hbehind sink =>
    serve_pieces hbefore hbehind sink⟩
  · rw [report_eq hreport, writeReport_eq_write rfl, fullReport_eq hreport]
    by_cases h : (Text.encode (k.reportText s.tree l r).toList).length ≤ n
    · rw [Sink.write_of_takes ((htaken n false _).2 h), if_pos h, List.take_of_length_le h]
      rfl
    · rw [Sink.write_of_refused fun htakes => h ((htaken n false _).1 htakes), if_neg h]
      rfl
  · rw [report_eq hreport, writeReport_of_flushFails rfl, Report.write_of_flushFails rfl,
      Report.bytes_eq]
    simp only [htaken]
    rfl
  · rw [Report.bytes_eq, fullReport_eq hreport, reportText, Sink.encode_append]
    exact List.prefix_append _ _

end Conductor

/-! ### A report that breaks off -/

namespace Sample

/-- A step that failed, with its log. -/
def loggedLedger : Ledger :=
  .ofOutcomes [⟨"fmt", false, some 1, some (.ofText "/fmt.log")⟩] (by decide)

/-- The log is there. -/
def logTree : FileTree where
  entries := [([.ofText "fmt.log"], .file (Text.encode "one\ntwo\n".toList))]
  cwd := []

/-- A conductor that reports in English and without colours. -/
def reporter : Conductor where
  runner := fun _ t _ => ⟨.exited 0, t, false, [], ⟨0⟩⟩
  process := ⟨[], none⟩
  narration := ⟨.english, false⟩
  reporting := ⟨.english, false⟩

/-- The sink is full in the midst of a header, and what it received is right up to there. -/
theorem report_received_in_part :
    loggedLedger.outcomes ≠ [] ∧
      (reporter.report loggedLedger (.start logTree) ⟨some 69, false, []⟩).2 =
        (⟨some 69, false, Text.encode
            "\n--- Check Summary ---\n- fmt : ERROR\nSome checks failed\n\n[1/1] Log of".toList⟩,
          .error (.report ⟨"disk full"⟩)) := by
  have hne : loggedLedger.outcomes ≠ [] := by decide
  obtain ⟨-, -, h⟩ := reporter.report_received loggedLedger (.start logTree)
  obtain ⟨r, -, hcut, -⟩ := h hne
  -- there is one byte more to write
  have hmore : (reporter.fullReport loggedLedger (.start logTree)).take 70 = Text.encode
      "\n--- Check Summary ---\n- fmt : ERROR\nSome checks failed\n\n[1/1] Log of ".toList := by
    decide +kernel
  have hlength : ¬ (reporter.fullReport loggedLedger (.start logTree)).length ≤ 69 := by
    intro hshort
    have hall := congrArg List.length hmore
    rw [List.take_of_length_le (Nat.le_succ_of_le hshort)] at hall
    exact absurd (hall ▸ hshort) (by decide +kernel)
  have hfirst : (reporter.fullReport loggedLedger (.start logTree)).take 69 = Text.encode
      "\n--- Check Summary ---\n- fmt : ERROR\nSome checks failed\n\n[1/1] Log of".toList := by
    have hless := congrArg (List.take 69) hmore
    rw [List.take_take] at hless
    exact hless.trans (by decide +kernel)
  refine ⟨hne, ?_⟩
  rw [hcut 69, if_neg hlength, hfirst]

end Sample

end CheckMatrix
