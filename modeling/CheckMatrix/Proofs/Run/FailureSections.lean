/-
What the details on failed steps consist of.

There is a section for each failed step whose log is a file, in the order of the ledger, and the
header of each says which of how many it is.  A section on a log that can be read ends with the last
forty lines of it, or with all of them if there are fewer.

What a line is does not depend on how lines are found: `Lined` says how a text is put together from
its lines, one constructor for each way in which a line may end, and `lined_iff` that `lines` finds
exactly these.  So nothing is lost at an end of the file without a line break, at two line breaks in
a row, or at a carriage return that ends no line, whatever bytes the file holds.
-/
import CheckMatrix.Proofs.Run.FailureLogs
import CheckMatrix.Proofs.Run.ReportLines

namespace CheckMatrix

/-! ### The lines of a text -/

namespace Text

/-- A text is made of lines: each has its own end, and the last may end with the text. -/
inductive Lined : List Char → List (List Char) → Prop
  | nil : Lined [] []
  | last {line : List Char} (hne : line ≠ []) (hline : '\n' ∉ line) : Lined line [line]
  | feed {line rest : List Char} {others : List (List Char)} (hline : '\n' ∉ line)
      (hreturn : line.getLast? ≠ some '\r') (hrest : Lined rest others) :
      Lined (line ++ '\n' :: rest) (line :: others)
  | returnFeed {line rest : List Char} {others : List (List Char)} (hline : '\n' ∉ line)
      (hrest : Lined rest others) : Lined (line ++ '\r' :: '\n' :: rest) (line :: others)

theorem cut_feeds_of_notMem {line : List Char} (h : '\n' ∉ line) :
    cut (· = '\n') line = [line] := by
  refine cut_of_none fun c hc => decide_eq_false ?_
  rintro rfl
  exact h hc

theorem lines_of_notMem {line : List Char} (h : '\n' ∉ line) (hne : line ≠ []) :
    lines line = [line] := by
  rw [lines, cut_feeds_of_notMem h, linesOfFields, if_neg hne]

/-- What stands in front of the first line feed is the first line, but for a carriage return. -/
theorem lines_append_feed {line : List Char} (h : '\n' ∉ line) (rest : List Char) :
    lines (line ++ '\n' :: rest) = dropReturn line :: lines rest := by
  rw [lines, cut_append_sep (by rfl), cut_feeds_of_notMem h, List.singleton_append]
  obtain ⟨field, fields, hfields⟩ := List.exists_cons_of_ne_nil (cut_ne_nil (· = '\n') rest)
  rw [lines, hfields]
  rfl

theorem dropReturn_concat (line : List Char) : dropReturn (line ++ ['\r']) = line := by
  rw [dropReturn, if_pos List.getLast?_concat, List.dropLast_concat]

theorem Lined.lines_eq {text : List Char} {found : List (List Char)} (h : Lined text found) :
    lines text = found := by
  induction h with
  | nil => rfl
  | last hne hline => exact lines_of_notMem hline hne
  | feed hline hreturn _ ih => rw [lines_append_feed hline, dropReturn_of_getLast? hreturn, ih]
  | @returnFeed line rest _ hline _ ih =>
      have hfront : '\n' ∉ line ++ ['\r'] := by simpa using hline
      have hsplit : line ++ '\r' :: '\n' :: rest = (line ++ ['\r']) ++ '\n' :: rest := by simp
      rw [hsplit, lines_append_feed hfront, dropReturn_concat, ih]

theorem lined_lines (text : List Char) : Lined text (lines text) := by
  induction hlength : text.length using Nat.strongRecOn generalizing text with
  | _ n ih =>
      subst hlength
      by_cases hfeed : '\n' ∈ text
      · obtain ⟨front, rest, rfl, hfront⟩ := List.eq_append_cons_of_mem hfeed
        have hrest : Lined rest (lines rest) := ih _ (by simp; omega) rest rfl
        rw [lines_append_feed hfront]
        by_cases hreturn : front.getLast? = some '\r'
        · obtain ⟨line, rfl⟩ := List.getLast?_eq_some_iff.1 hreturn
          rw [dropReturn_concat, List.append_assoc]
          exact .returnFeed (fun hline => hfront (List.mem_append_left _ hline)) hrest
        · rw [dropReturn_of_getLast? hreturn]
          exact .feed hfront hreturn hrest
      · by_cases hne : text = []
        · subst hne
          exact .nil
        · rw [lines_of_notMem hfeed hne]
          exact .last hne hfeed

/-- A text is made of its lines, and in one way only. -/
theorem lined_iff {text : List Char} {found : List (List Char)} :
    Lined text found ↔ lines text = found :=
  ⟨Lined.lines_eq, fun h => h ▸ lined_lines text⟩

/-- A carriage return at the very end is no line break. -/
example : lines "a\r\n\nb\r".toList = ["a".toList, [], "b\r".toList] := by decide

end Text

/-! ### Sections -/

/-- The failed steps of a ledger whose log is a file, in order. -/
def loggedFailures (t : FileTree) (l : Ledger) : List StepOutcome :=
  l.outcomes.filter fun o => !o.success && o.log.any t.isFile

/-- What is shown of a log: the last lines of its text, forty at most, or why it cannot be read. -/
inductive ShowsLog (v : Voice) (t : FileTree) (log : Path) : String → Prop
  | ending {content : List UInt8} {all shown : List (List Char)}
      (hread : t.readFile log = .ok content) (hall : Text.Lined (Text.decode content) all)
      (hend : shown <:+ all) (hcount : shown.length = min 40 all.length) :
      ShowsLog v t log (String.join (shown.map fun text => line (String.ofList text)))
  | unreadable {cause : FileError} (hread : t.readFile log = .error cause) :
      ShowsLog v t log (line (v.paint .yellow (v.wording.logUnreadable cause.message)))

/-- The section on an outcome, number `i` of `n`: a header, and what is shown of the log between two
rules. -/
def IsSection (v : Voice) (t : FileTree) (i n : Nat) (o : StepOutcome) (text : String) : Prop :=
  ∃ log shown, o.log = some log ∧ ShowsLog v t log shown ∧
    text = line "" ++
      line ("[" ++ toString i ++ "/" ++ toString n ++ "] " ++
        v.paint .red (v.wording.logHeader o.name log.shown 40)) ++
      line rule ++ shown ++ line rule

theorem showsLog_logLines (v : Voice) (t : FileTree) (log : Path) :
    ShowsLog v t log (logLines v t log) := by
  unfold logLines tailOfFile
  cases hread : t.readFile log with
  | error cause => exact .unreadable hread
  | ok content =>
      obtain ⟨hend, hcount⟩ :=
        Text.tail_eq_append shownLogLines (Text.lines (Text.decode content))
      have hshown := ShowsLog.ending (v := v) hread (Text.lined_lines _) hend hcount
      simp only [List.map_map]
      exact hshown

theorem isSection_logSection {v : Voice} {t : FileTree} {i n : Nat} {o : StepOutcome} {log : Path}
    (h : o.log = some log) : IsSection v t i n o (logSection v t i n o log) :=
  ⟨log, logLines v t log, h, showsLog_logLines v t log, rfl⟩

/-! ### Which steps have one -/

theorem log_of_mem_failuresWithLog {t : FileTree} {l : Ledger} {f : StepOutcome × Path}
    (h : f ∈ failuresWithLog t l) : f.1.log = some f.2 := by
  obtain ⟨o, -, hf⟩ := List.mem_filterMap.1 h
  split at hf
  · rename_i log hlog
    split at hf
    · cases hf
      exact hlog
    · cases hf
  · cases hf

theorem map_fst_failuresWithLog (t : FileTree) (l : Ledger) :
    (failuresWithLog t l).map Prod.fst = loggedFailures t l := by
  unfold failuresWithLog loggedFailures Ledger.failures
  generalize l.outcomes = outcomes
  induction outcomes with
  | nil => rfl
  | cons o others ih =>
      obtain ⟨name, success, exitCode, log⟩ := o
      cases success with
      | true => simpa using ih
      | false =>
          cases log with
          | none => simpa using ih
          | some log =>
              cases hfile : t.isFile log with
              | true => simpa [hfile] using ih
              | false => simpa [hfile] using ih

/-- **The details have one section for each failed step with a log**, in order and numbered, and
each shows the end of its log; nothing else is written. -/
theorem writeFailureDetails_sections (v : Voice) (t : FileTree) (l : Ledger) {s : Sink}
    (hlimit : s.limit = none) :
    ∃ sections : List String,
      writeFailureDetails v t l s =
        ({ s with received := s.received ++ Text.encode (String.join sections).toList }, .ok ()) ∧
      List.Forall₂
        (fun f text => IsSection v t (f.2 + 1) (loggedFailures t l).length f.1 text)
        (loggedFailures t l).zipIdx sections := by
  have hwritten := Sink.write_of_takes (Conductor.takes_of_unlimited hlimit (failureDetails v t l))
  refine ⟨_, hwritten, ?_⟩
  rw [← map_fst_failuresWithLog, List.length_map, List.zipIdx_map, List.forall₂_map_left_iff,
    List.forall₂_map_right_iff, List.forall₂_same]
  intro f hf
  obtain ⟨-, -, hmem⟩ := List.mem_zipIdx hf
  exact isSection_logSection (log_of_mem_failuresWithLog (hmem ▸ List.getElem_mem _))

/-! ### Logs of all kinds -/

namespace Sample

/-- An empty log, one that is no text and breaks off, one that is longer than what is shown of it,
and one that cannot be read. -/
def logFiles : FileTree where
  entries := [
    ([.ofText "empty.log"], .file []),
    ([.ofText "broken.log"], .file (Text.encode "one\r\n\n".toList ++ [0xFF, 0x0D, 0xE2, 0x82])),
    ([.ofText "long.log"], .file (Text.encode (List.replicate 41 ['x', '\n']).flatten)),
    ([.ofText "locked.log"], .faulty)]
  cwd := []

/-- A step that succeeded in spite of a log, one without a log, one whose log was never written, and
one for each of the logs above. -/
def logLedger : Ledger :=
  .ofOutcomes [
    { StepOutcome.passed "fmt" with log := some (.ofText "long.log") },
    .failed "lint" 1,
    { StepOutcome.failed "check" 1 with log := some (.ofText "gone.log") },
    { StepOutcome.failed "doc" 1 with log := some (.ofText "empty.log") },
    { StepOutcome.failed "test" 101 with log := some (.ofText "broken.log") },
    { StepOutcome.failed "build" 101 with log := some (.ofText "long.log") },
    { StepOutcome.failed "bench" 101 with log := some (.ofText "locked.log") }] (by decide)

/-- Four of the seven steps have a section. -/
theorem details_of_logLedger :
    Sink.unlimited.limit = none ∧
      (loggedFailures logFiles logLedger).map StepOutcome.name = ["doc", "test", "build", "bench"] ∧
      ∃ sections : List String,
        writeFailureDetails ⟨.english, true⟩ logFiles logLedger .unlimited =
          (⟨none, false, [] ++ Text.encode (String.join sections).toList⟩, .ok ()) ∧
        List.Forall₂
          (fun f text => IsSection ⟨.english, true⟩ logFiles (f.2 + 1)
            (loggedFailures logFiles logLedger).length f.1 text)
          (loggedFailures logFiles logLedger).zipIdx sections :=
  ⟨rfl, by decide +kernel, writeFailureDetails_sections ⟨.english, true⟩ logFiles logLedger rfl⟩

end Sample

end CheckMatrix
