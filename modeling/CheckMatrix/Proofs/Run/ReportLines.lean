/-
The lines of a report.

A report is read line by line: one for each outcome and one for the verdict behind them.  A text
that ends with a line break has as many lines as it has breaks, so the number of lines is right
exactly when no name brings a break of its own.  Nothing on the way from a label to the report keeps
a name from doing so.

With names of one line each, the report lists the outcomes and the verdict and nothing else, and
can be read back: two ledgers with the same report agree on all names and on which of the steps
succeeded (`Report.ofLedger_lines`).  With others it may not tell one step from two
(`Sample.report_of_forged_name`).
-/
import CheckMatrix.Expansion
import CheckMatrix.Proofs.FileTree.Spelling
import CheckMatrix.Proofs.Run.Reporting

namespace CheckMatrix

/-! ### Texts that end with a line break -/

namespace Text

variable {α : Type} {sep : α → Bool}

theorem length_cut (text : List α) : (cut sep text).length = text.countP sep + 1 := by
  induction text with
  | nil => rfl
  | cons c rest ih =>
      cases h : sep c with
      | true => rw [cut_cons_of_sep h, List.length_cons, ih, List.countP_cons_of_pos h]
      | false =>
          obtain ⟨field, fields, hrest, hcut⟩ := cut_cons_of_not h rest
          rw [hrest, List.length_cons] at ih
          rw [hcut, List.length_cons, ih, List.countP_cons_of_neg (by simp [h])]

theorem linesOfFields_concat (fields : List (List Char)) :
    linesOfFields (fields ++ [[]]) = fields.map dropReturn := by
  induction fields with
  | nil => rfl
  | cons field rest ih =>
      rw [List.map_cons, ← ih]
      cases rest <;> rfl

/-- The lines of a text with a line break at its end are its fields. -/
theorem lines_concat (text : List Char) :
    lines (text ++ ['\n']) = (cut (· = '\n') text).map dropReturn := by
  rw [lines, cut_concat_of_sep (by rfl), linesOfFields_concat]

theorem dropReturn_of_getLast? {text : List Char} (h : text.getLast? ≠ some '\r') :
    dropReturn text = text :=
  if_neg h

end Text

/-! ### Lines for outcomes -/

namespace Report

/-- What is said about a step. -/
def statusText (o : StepOutcome) : String :=
  "- " ++ o.name ++ " : " ++ if o.success then "OK" else "ERROR"

/-- What is said about a run. -/
def verdictText (passed : Bool) : String :=
  if passed then "All checks passed" else "Some checks failed"

theorem toList_statusText (o : StepOutcome) :
    (statusText o).toList =
      ['-', ' '] ++ o.name.toList ++ [' ', ':', ' '] ++
        (if o.success then "OK" else "ERROR").toList := by
  unfold statusText
  simp

/-- Only the name of a step can break its line. -/
theorem count_statusText (o : StepOutcome) :
    (statusText o).toList.countP (· = '\n') = o.name.toList.count '\n' := by
  have hbreak : (fun c : Char => decide (c = '\n')) = (· == '\n') := by
    funext c
    exact (Bool.beq_eq_decide_eq c '\n').symm
  rw [toList_statusText, hbreak]
  cases o.success <;> simp [List.count]

/-- The last letter of a line says whether the step succeeded, -/
theorem getLast?_statusText (o : StepOutcome) :
    (statusText o).toList.getLast? = some (if o.success then 'K' else 'R') := by
  rw [toList_statusText, List.getLast?_append]
  cases o.success <;> rfl

theorem dropReturn_statusText (o : StepOutcome) :
    Text.dropReturn (statusText o).toList = (statusText o).toList := by
  refine Text.dropReturn_of_getLast? ?_
  rw [getLast?_statusText]
  cases o.success <;> decide

/-- and so a line says which step it was and what came of it. -/
theorem statusText_inj {o o' : StepOutcome} (h : statusText o = statusText o') :
    (o.name, o.success) = (o'.name, o'.success) := by
  have hsuccess : o.success = o'.success := by
    have hlast := congrArg (fun text : String => text.toList.getLast?) h
    simp only [getLast?_statusText] at hlast
    generalize o.success = b at hlast ⊢
    generalize o'.success = b' at hlast ⊢
    cases b <;> cases b' <;> first | rfl | exact absurd hlast (by decide)
  have hname : o.name = o'.name := by
    have hlist := congrArg String.toList h
    rw [toList_statusText, toList_statusText, hsuccess] at hlist
    have hfront := List.append_cancel_right (List.append_cancel_right hlist)
    exact String.toList_inj.1 (List.append_cancel_left hfront)
  rw [hname, hsuccess]

/-! ### Lines of a report -/

/-- The fields of a report between its line breaks. -/
theorem cut_stepLines (outcomes : List StepOutcome) (rest : List Char) :
    Text.cut (· = '\n') ((String.join (outcomes.map stepLine)).toList ++ rest) =
      (outcomes.flatMap fun o => Text.cut (· = '\n') (statusText o).toList) ++
        Text.cut (· = '\n') rest := by
  induction outcomes with
  | nil => simp
  | cons o others ih =>
      have hline : (String.join ((o :: others).map stepLine)).toList ++ rest =
          (statusText o).toList ++
            '\n' :: ((String.join (others.map stepLine)).toList ++ rest) := by
        rw [List.map_cons, String.join_cons, String.toList_append]
        simp [stepLine, statusText, line]
      rw [hline, Text.cut_append_sep (by rfl), ih, List.flatMap_cons, List.append_assoc]

/-- What a report is made of, line by line. -/
theorem lines_eq {l : Ledger} {r : Report} (h : ofLedger l = .ok r) :
    Text.lines r.text.toList =
      ((l.outcomes.flatMap fun o => Text.cut (· = '\n') (statusText o).toList).map
        Text.dropReturn) ++ [(verdictText (l.outcomes.all StepOutcome.success)).toList] := by
  rw [ofLedger_eq (outcomes_ne_nil h)] at h
  cases h
  have htext : (String.join (l.outcomes.map stepLine) ++
        verdictLine (l.outcomes.all StepOutcome.success)).toList =
      (String.join (l.outcomes.map stepLine)).toList ++
        (verdictText (l.outcomes.all StepOutcome.success)).toList ++ ['\n'] := by
    rw [String.toList_append, verdictLine, line, String.toList_append, ← List.append_assoc]
    rfl
  have hverdict : ∀ passed,
      (Text.cut (· = '\n') (verdictText passed).toList).map Text.dropReturn =
        [(verdictText passed).toList] := by decide
  rw [htext, Text.lines_concat, cut_stepLines, List.map_append, hverdict]

/-- Outcomes whose names are one line each have one line each. -/
theorem lines_statusTexts {outcomes : List StepOutcome}
    (h : ∀ o ∈ outcomes, '\n' ∉ o.name.toList) :
    (outcomes.flatMap fun o => Text.cut (· = '\n') (statusText o).toList).map Text.dropReturn =
      outcomes.map fun o => (statusText o).toList := by
  induction outcomes with
  | nil => rfl
  | cons o others ih =>
      have hcount : (statusText o).toList.countP (· = '\n') = 0 := by
        rw [count_statusText]
        exact List.count_eq_zero.2 (h o List.mem_cons_self)
      have hone : Text.cut (· = '\n') (statusText o).toList = [(statusText o).toList] :=
        Text.cut_of_none fun c hc => by simpa using List.countP_eq_zero.1 hcount c hc
      have hothers := ih fun o' ho' => h o' (List.mem_cons_of_mem o ho')
      rw [List.flatMap_cons, hone, List.map_append, hothers, List.map_cons, List.map_cons,
        dropReturn_statusText]
      rfl

/-- The number of lines of a report: there is a further one for each line break in a name. -/
theorem length_lines {l : Ledger} {r : Report} (h : ofLedger l = .ok r) :
    (Text.lines r.text.toList).length =
      l.size + (l.outcomes.flatMap fun o => o.name.toList).count '\n' + 1 := by
  have hcount : ∀ outcomes : List StepOutcome,
      (outcomes.flatMap fun o => Text.cut (· = '\n') (statusText o).toList).length =
        outcomes.length + (outcomes.flatMap fun o => o.name.toList).count '\n' := by
    intro outcomes
    induction outcomes with
    | nil => rfl
    | cons o others ih =>
        rw [List.flatMap_cons, List.length_append, ih, Text.length_cut, count_statusText,
          List.flatMap_cons, List.count_append, List.length_cons]
        omega
  rw [lines_eq h, List.length_append, List.length_map, hcount]
  rfl

/-- Two reports of one text are about the same steps, if the names are one line each. -/
theorem outcomes_of_text {l l' : Ledger} {r r' : Report} (h : ofLedger l = .ok r)
    (h' : ofLedger l' = .ok r') (hlines : ∀ o ∈ l.outcomes, '\n' ∉ o.name.toList)
    (hlines' : ∀ o ∈ l'.outcomes, '\n' ∉ o.name.toList) (htext : r.text = r'.text) :
    (l.outcomes.map fun o => (o.name, o.success)) =
      l'.outcomes.map fun o => (o.name, o.success) := by
  have hsame := lines_eq h
  rw [htext, lines_eq h', lines_statusTexts hlines, lines_statusTexts hlines'] at hsame
  obtain ⟨hstatus, -⟩ := List.append_inj' hsame rfl
  have hbeside : List.Forall₂ (fun o o' => statusText o' = statusText o) l.outcomes
      l'.outcomes := by
    rw [← List.forall₂_eq_eq_eq, List.forall₂_map_left_iff, List.forall₂_map_right_iff] at hstatus
    exact hstatus.flip.imp fun o o' h => String.toList_inj.1 h
  exact (map_eq_of_forall₂ (fun o o' h => statusText_inj h) hbeside).symm

/-- **One line for each step.**  A ledger that is not empty has a report.  Its last line is the
verdict, which agrees with the exit code.  It has one line more than there are outcomes exactly when
no name has a line break in it, and then its lines are what is said about the outcomes, in order,
and determine their names and which of them are successes. -/
theorem ofLedger_lines {l : Ledger} (hne : l.outcomes ≠ []) :
    ∃ r, ofLedger l = .ok r ∧
      (Text.lines r.text.toList).getLast? =
        some (verdictText (l.outcomes.all StepOutcome.success)).toList ∧
      (r.exitCode = 0 ↔ ∀ o ∈ l.outcomes, o.success = true) ∧
      ((Text.lines r.text.toList).length = l.size + 1 ↔
        ∀ o ∈ l.outcomes, '\n' ∉ o.name.toList) ∧
      ((∀ o ∈ l.outcomes, '\n' ∉ o.name.toList) →
        Text.lines r.text.toList =
            (l.outcomes.map fun o => (statusText o).toList) ++
              [(verdictText (l.outcomes.all StepOutcome.success)).toList] ∧
          ∀ l' r', ofLedger l' = .ok r' → (∀ o ∈ l'.outcomes, '\n' ∉ o.name.toList) →
            r'.text = r.text →
              (l'.outcomes.map fun o => (o.name, o.success)) =
                l.outcomes.map fun o => (o.name, o.success)) := by
  have h := ofLedger_eq hne
  refine ⟨_, h, ?_, ?_, ?_, fun hlines => ⟨?_, fun l' r' h' hlines' htext => ?_⟩⟩
  · rw [lines_eq h, List.getLast?_concat]
  · rw [exitCode_of_ofLedger h, ← List.all_eq_true]
    split <;> simp_all
  · rw [length_lines h, Nat.add_right_cancel_iff, Nat.add_eq_left, List.count_eq_zero]
    simp [List.mem_flatMap]
  · rw [lines_eq h, lines_statusTexts hlines]
  · exact outcomes_of_text h' h hlines' hlines htext

end Report

/-! ### Names with and without line breaks -/

namespace Sample

/-- Two steps, one of which failed. -/
def mixedLedger : Ledger :=
  .ofOutcomes [.failed "check feature contract" 1, .passed "check: all\r"] (by decide)

/-- Every step has its line, also one with a carriage return in its name. -/
theorem report_of_mixed :
    mixedLedger.outcomes ≠ [] ∧ (∀ o ∈ mixedLedger.outcomes, '\n' ∉ o.name.toList) ∧
      ∃ r, Report.ofLedger mixedLedger = .ok r ∧
        Text.lines r.text.toList =
          ["- check feature contract : ERROR".toList, "- check: all\r : OK".toList,
            "Some checks failed".toList] := by
  have hne : mixedLedger.outcomes ≠ [] := by decide
  have hlines : ∀ o ∈ mixedLedger.outcomes, '\n' ∉ o.name.toList := by decide
  obtain ⟨r, hreport, -, -, -, hall⟩ := Report.ofLedger_lines hne
  exact ⟨hne, hlines, r, hreport, (hall hlines).1⟩

/-- A label with a line break in it. -/
def forgedTemplate : StepTemplate :=
  ⟨"fmt : OK\n- lint", none, [⟨"cargo fmt", none, none⟩]⟩

/-- The step that is planned for it. -/
def forgedStep : Step :=
  ⟨"fmt : OK\n- lint", "", [⟨"cargo", ["fmt"], .ofText ".", none⟩]⟩

/-- The ledger of a run of that step alone, -/
def forgedLedger : Ledger :=
  .ofOutcomes [.passed forgedStep.name] (by decide)

/-- and that of a run of two steps. -/
def honestLedger : Ledger :=
  .ofOutcomes [.passed "fmt", .passed "lint"] (by decide)

/-- The planner lets the name through, its one step has two lines, and nothing in the report tells
them from those of two steps. -/
theorem report_of_forged_name :
    expand ⟨.empty, ⟨[], none⟩⟩ [] [forgedTemplate] = .ok [forgedStep] ∧
      ∃ r, Report.ofLedger forgedLedger = .ok r ∧ Report.ofLedger honestLedger = .ok r ∧
        (Text.lines r.text.toList).length = forgedLedger.size + 2 ∧
        forgedLedger.names ≠ honestLedger.names := by
  refine ⟨eq_ok_of_toOption (by decide +kernel), ⟨_, 0⟩, rfl, ?_, by decide +kernel, by decide⟩
  exact eq_ok_of_toOption (by decide +kernel)

end Sample

end CheckMatrix
