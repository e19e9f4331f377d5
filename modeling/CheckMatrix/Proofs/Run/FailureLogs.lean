/-
What is shown of the logs of failed steps.

A log is written while a command runs and read when everything has run, so what is shown of it is
what it holds then.  That is the text the failing command wrote if nobody writes to the file
afterwards, and then the section on the step shows the last lines of that text
(`run_shows_log`).  Steps may share a log file, though.  The later one replaces the text of the
earlier, and both sections show the later text (`Sample.run_shows_other_log`).

The path of a log from the command to the report has three parts, each with its lemma: a failing
command decides what is recorded of its step (`Attempt.outcome_of_failed`), every recorded failure
whose log is a file has one section (`failuresWithLog_split`), and a section shows the end of what
the file holds (`logSection_of_holds`).
-/
import CheckMatrix.Proofs.Run.Isolation
import CheckMatrix.Proofs.Run.Outcome
import CheckMatrix.Proofs.Run.Reporting
import CheckMatrix.Proofs.Text.Utf8

namespace CheckMatrix

/-! ### What is recorded of a failing command -/

theorem Attempt.outcome_of_failed {a : Attempt} {others : List Try} {t : Try}
    (hinOrder : a.tries.map Try.command <+: a.step.commands)
    (hgoesOn : ∀ o ∈ a.tries.dropLast, o.succeeded = true) (htries : a.tries = others ++ [t])
    (hfailed : t.succeeded = false) :
    a.outcome = { StepOutcome.failed a.step.name t.outcome.exitCode with log := t.command.log } := by
  rw [htries, List.dropLast_concat] at hgoesOn
  rw [htries] at hinOrder
  rw [Attempt.outcome, Step.outcome, htries]
  exact outcomeFrom_of_failed hinOrder hgoesOn hfailed

/-! ### What a file holds -/

/-- A path leads to a file that holds a text. -/
def FileTree.HoldsText (t : FileTree) (p : Path) (text : String) : Prop :=
  ∃ l, t.find p = .ok (l, .file (Text.encode text.toList))

theorem FileTree.HoldsText.isFile {t : FileTree} {p : Path} {text : String}
    (h : t.HoldsText p text) : t.isFile p = true := by
  obtain ⟨l, hfind⟩ := h
  rw [FileTree.isFile, hfind]

theorem FileTree.HoldsText.readFile {t : FileTree} {p : Path} {text : String}
    (h : t.HoldsText p text) : t.readFile p = .ok (Text.encode text.toList) := by
  obtain ⟨l, hfind⟩ := h
  rw [FileTree.readFile, hfind]

/-! ### Sections -/

/-- The lines of a text. -/
def linesOf (text : String) : List String :=
  (Text.lines text.toList).map String.ofList

/-- The section on a failed step, number `i` of `n`, with the given lines of its log. -/
def sectionShowing (v : Voice) (i n : Nat) (name : String) (log : Path) (shown : List String) :
    String :=
  line "" ++
  line ("[" ++ toString i ++ "/" ++ toString n ++ "] " ++
    v.paint .red (v.wording.logHeader name log.shown shownLogLines)) ++
  line rule ++ String.join (shown.map line) ++ line rule

/-- The last lines of a list are the end of it, as many as there are or as are asked for. -/
theorem Text.tail_eq_append {α : Type} (count : Nat) (xs : List α) :
    Text.tail count xs <:+ xs ∧ (Text.tail count xs).length = min count xs.length := by
  constructor
  · exact List.drop_suffix _ _
  · rw [Text.tail, List.length_drop]
    omega

/-- A section shows the end of what the log file holds. -/
theorem logSection_of_holds {v : Voice} {t : FileTree} {i n : Nat} {o : StepOutcome} {log : Path}
    {text : String} (h : t.HoldsText log text) :
    logSection v t i n o log =
      sectionShowing v i n o.name log (Text.tail shownLogLines (linesOf text)) := by
  have hlines : (Text.tail shownLogLines (Text.lines text.toList)).map String.ofList =
      Text.tail shownLogLines (linesOf text) := by
    rw [Text.tail, Text.tail, linesOf, List.map_drop, List.length_map]
  unfold logSection logLines tailOfFile
  rw [h.readFile]
  simp only [Text.decode_encode, hlines]
  rfl

/-- The sections on some failed steps, out of `n`, when there are `first` before them. -/
def sections (v : Voice) (t : FileTree) (n first : Nat) (failed : List (StepOutcome × Path)) :
    List String :=
  (failed.zipIdx first).map fun (f, i) => logSection v t (i + 1) n f.1 f.2

theorem failureDetails_split {v : Voice} {t : FileTree} {l : Ledger}
    {before after : List (StepOutcome × Path)} {o : StepOutcome} {log : Path}
    (h : failuresWithLog t l = before ++ (o, log) :: after) :
    failureDetails v t l =
      String.join (sections v t (before.length + 1 + after.length) 0 before) ++
        logSection v t (before.length + 1) (before.length + 1 + after.length) o log ++
        String.join (sections v t (before.length + 1 + after.length) (before.length + 1) after) := by
  have hcount : (before ++ (o, log) :: after).length = before.length + 1 + after.length := by
    simp only [List.length_append, List.length_cons]
    omega
  unfold failureDetails
  simp only [h, hcount]
  rw [List.zipIdx_append, List.zipIdx_cons, List.map_append, List.map_cons, String.join_append,
    String.join_cons, ← String.append_assoc, Nat.zero_add]
  rfl

/-! ### Which failures have a section -/

/-- The failed ones among some outcomes that have a log file, with its path. -/
def failedWithLog (t : FileTree) (outcomes : List StepOutcome) : List (StepOutcome × Path) :=
  (outcomes.filter fun o => !o.success).filterMap fun o =>
    match o.log with
    | some log => if t.isFile log then some (o, log) else none
    | none => none

theorem failedWithLog_append (t : FileTree) (outcomes others : List StepOutcome) :
    failedWithLog t (outcomes ++ others) =
      failedWithLog t outcomes ++ failedWithLog t others := by
  rw [failedWithLog, List.filter_append, List.filterMap_append]
  rfl

theorem failedWithLog_cons {t : FileTree} {o : StepOutcome} {log : Path}
    (hfailed : o.success = false) (hlog : o.log = some log) (hfile : t.isFile log = true)
    (others : List StepOutcome) :
    failedWithLog t (o :: others) = (o, log) :: failedWithLog t others := by
  rw [failedWithLog, List.filter_cons_of_pos (by simp [hfailed]), List.filterMap_cons]
  simp only [hlog, if_pos hfile]
  rfl

theorem mem_of_mem_failedWithLog {t : FileTree} {outcomes : List StepOutcome}
    {f : StepOutcome × Path} (h : f ∈ failedWithLog t outcomes) : f.1 ∈ outcomes := by
  obtain ⟨o, ho, hf⟩ := List.mem_filterMap.1 h
  split at hf
  · split at hf
    · cases hf
      exact (List.mem_filter.1 ho).1
    · cases hf
  · cases hf

/-- A recorded failure whose log is a file has a section of its own: the others are on other
steps. -/
theorem failuresWithLog_split {t : FileTree} {l : Ledger} {earlier later : List StepOutcome}
    {o : StepOutcome} {log : Path} (houtcomes : l.outcomes = earlier ++ o :: later)
    (hfailed : o.success = false) (hlog : o.log = some log) (hfile : t.isFile log = true) :
    ∃ before after, failuresWithLog t l = before ++ (o, log) :: after ∧
      ∀ f ∈ before ++ after, f.1.name ≠ o.name := by
  have hdistinct := l.distinct
  rw [houtcomes, List.map_append, List.map_cons, List.nodup_append, List.nodup_cons] at hdistinct
  obtain ⟨-, ⟨hlater, -⟩, hearlier⟩ := hdistinct
  refine ⟨failedWithLog t earlier, failedWithLog t later, ?_, ?_⟩
  · show failedWithLog t l.outcomes = _
    rw [houtcomes, failedWithLog_append, failedWithLog_cons hfailed hlog hfile]
  · intro f hf hname
    rcases List.mem_append.1 hf with hf | hf
    · have hmem := List.mem_map_of_mem (f := StepOutcome.name) (mem_of_mem_failedWithLog hf)
      exact hearlier _ hmem _ List.mem_cons_self hname
    · have hmem := List.mem_map_of_mem (f := StepOutcome.name) (mem_of_mem_failedWithLog hf)
      exact hlater (hname ▸ hmem)

/-! ### Runs -/

/-- The details on a run have one section under a name, with the given lines of a log. -/
def Shows (v : Voice) (t : FileTree) (l : Ledger) (name : String) (log : Path)
    (shown : List String) : Prop :=
  ∃ o before after, failuresWithLog t l = before ++ (o, log) :: after ∧ o.name = name ∧
    (∀ f ∈ before ++ after, f.1.name ≠ name) ∧
    failureDetails v t l =
      String.join (sections v t (before.length + 1 + after.length) 0 before) ++
        sectionShowing v (before.length + 1) (before.length + 1 + after.length) name log shown ++
        String.join (sections v t (before.length + 1 + after.length) (before.length + 1) after)

/-- A recorded failure is shown with the end of what its log holds. -/
theorem shows_of_holds {v : Voice} {t : FileTree} {l : Ledger} {earlier later : List StepOutcome}
    {o : StepOutcome} {log : Path} {text : String} (houtcomes : l.outcomes = earlier ++ o :: later)
    (hfailed : o.success = false) (hlog : o.log = some log) (hholds : t.HoldsText log text) :
    Shows v t l o.name log (Text.tail shownLogLines (linesOf text)) := by
  obtain ⟨before, after, hsplit, hothers⟩ :=
    failuresWithLog_split houtcomes hfailed hlog hholds.isFile
  refine ⟨o, before, after, hsplit, rfl, hothers, ?_⟩
  rw [failureDetails_split hsplit, logSection_of_holds hholds]

/-- What is shown of a log is what is read of it when the details are written. -/
theorem Shows.logLines_eq {v : Voice} {t : FileTree} {l : Ledger} {name : String} {log : Path}
    {shown : List String} (h : Shows v t l name log shown) :
    logLines v t log = String.join (shown.map line) := by
  obtain ⟨o, before, after, hsplit, rfl, -, hprinted⟩ := h
  rw [failureDetails_split hsplit] at hprinted
  have hsection := (String.append_right_inj _).1 ((String.append_left_inj _).1 hprinted)
  unfold logSection sectionShowing at hsection
  exact (String.append_right_inj _).1 ((String.append_left_inj _).1 hsection)

namespace Conductor

variable {k : Conductor} {config : Config} {selection : Selection} {root : Path} {s : Session}
  {sink : Sink} {p : Plan}

/-- A sink without a limit takes everything. -/
theorem takes_of_unlimited (hlimit : sink.limit = none) (text : String) : sink.Takes text := by
  rw [Sink.takes_iff_length]
  intro limit hsome
  rw [hlimit] at hsome
  cases hsome

/-- The log of a step that failed holds in the end what its last command left there, if no later
command left anything else. -/
theorem ended_holds {attempts earlier later : List Attempt} {a : Attempt} {others : List Try}
    {t : Try} {after : Session} {log : Path} {text : String}
    (h : Attempted k.runner s attempts after) (hsplit : attempts = earlier ++ a :: later)
    (htries : a.tries = others ++ [t]) (hholds : t.reaction.tree.HoldsText log text)
    (hlater : ∀ t' ∈ later.flatMap Attempt.tries, t'.reaction.tree.HoldsText log text) :
    after.tree.HoldsText log text := by
  have hall : attempts.flatMap Attempt.tries =
      (earlier.flatMap Attempt.tries ++ others) ++ (t :: later.flatMap Attempt.tries) := by
    rw [hsplit, List.flatMap_append, List.flatMap_cons, htries]
    simp only [List.append_assoc, List.singleton_append]
  rw [h.handed.tree, hall, treeLeft_append]
  show (treeLeft t.reaction.tree (later.flatMap Attempt.tries)).HoldsText log text
  exact treeLeft_of_forall (P := fun tree => tree.HoldsText log text) hholds hlater

/-- **The details on a failed step show the end of its own log**, provided that no later command of
the run leaves anything else in that file.  The run need not be free of cancellations. -/
theorem run_shows_log (k : Conductor)
    (hp : CheckMatrix.plan k.process s.tree config selection root = .ok p)
    (hlimit : sink.limit = none) (hflush : sink.flushFails = false) :
    ∃ attempts l r, k.Executed p (k.begun p s) attempts l ∧
      (k.run config selection root s sink).2 =
        (sink.taking (k.reportText (k.ended p s).tree l r), .ok ⟨l, r⟩) ∧
      ∀ earlier a later others t log text,
        attempts = earlier ++ a :: later → a.tries = others ++ [t] → t.succeeded = false →
        t.command.log = some log → t.reaction.tree.HoldsText log text →
        (∀ t' ∈ later.flatMap Attempt.tries, t'.reaction.tree.HoldsText log text) →
        ∃ shown, shown <:+ linesOf text ∧
          shown.length = min shownLogLines (linesOf text).length ∧
          Shows k.reporting (k.ended p s).tree l a.step.name log shown := by
  obtain ⟨attempts, l, r, hran⟩ := k.perform_performed (plan_wf hp) s sink
  have htakes := takes_of_unlimited hlimit (k.reportText (k.ended p s).tree l r)
  refine ⟨attempts, l, r, hran.executed, ?_, ?_⟩
  · rw [run_of_plan hp]
    refine Prod.ext ?_ (hran.result_iff.2 ⟨rfl, htakes, hflush⟩)
    rw [hran.received, writeReport_of_takes htakes hflush]
  · intro earlier a later others t log text hsplit htries hfailed hlog hholds hlater
    have ha : a ∈ attempts := by simp [hsplit]
    have houtcome := Attempt.outcome_of_failed (hran.executed.attempted.inOrder a ha)
      (hran.executed.attempted.goesOn a ha) htries hfailed
    have houtcomes : l.outcomes =
        earlier.map Attempt.outcome ++ a.outcome :: later.map Attempt.outcome := by
      rw [hran.executed.outcomes, hsplit, List.map_append, List.map_cons]
    have hend := ended_holds hran.executed.attempted hsplit htries hholds hlater
    obtain ⟨hsuffix, hlength⟩ := Text.tail_eq_append shownLogLines (linesOf text)
    refine ⟨_, hsuffix, hlength, ?_⟩
    rw [← a.outcome_name]
    exact shows_of_holds houtcomes (by rw [houtcome]; rfl) (by rw [houtcome]; exact hlog) hend

end Conductor

/-! ### Two steps that fail -/

/-- A step of one command has that command tried, whatever comes of it. -/
theorem UpToFailure.commands_of_one {a : Attempt} {c : Command}
    (h : UpToFailure a.step.commands a.tries) (hone : a.step.commands = [c]) :
    a.tries.map Try.command = [c] := by
  rcases h.stops with hall | ⟨t, hlast, -⟩
  · rw [hall, hone]
  · have hprefix := hone ▸ h.inOrder
    have hne : a.tries.map Try.command ≠ [] := by
      intro hnil
      rw [List.map_eq_nil_iff.1 hnil] at hlast
      cases hlast
    exact hprefix.eq_of_length_le (List.length_pos_iff.2 hne)

namespace Conductor

/-- The attempts of a run of two steps of one command each. -/
theorem Executed.attempts_of_two {k : Conductor} {p : Plan} {s : Session}
    {attempts : List Attempt} {l : Ledger} {first second : Step} {c d : Command}
    (h : k.Executed p s attempts l) (hopen : (k.execute p s).1.cancelled = false)
    (hsteps : p.steps = [first, second]) (hfirst : first.commands = [c])
    (hsecond : second.commands = [d]) :
    ∃ t u, attempts = [⟨first, [t]⟩, ⟨second, [u]⟩] ∧
      k.runner.tries s.commands s.tree [c, d] = [t, u] := by
  have hsteps := h.steps.trans hsteps
  match attempts, hsteps with
  | [⟨_, tries⟩, ⟨_, others⟩], rfl =>
    have hup := h.attempted.upToFailure hopen
    have htries := UpToFailure.commands_of_one (hup _ List.mem_cons_self) hfirst
    have hothers := UpToFailure.commands_of_one
      (hup _ (List.mem_cons_of_mem _ List.mem_cons_self)) hsecond
    match tries, others, htries, hothers with
    | [t], [u], htries, hothers =>
      refine ⟨t, u, rfl, ?_⟩
      have hanswers := h.attempted.handed.answers
      simp only [List.flatMap_cons, List.flatMap_nil, List.append_nil, List.map_append] at hanswers
      rw [htries, hothers] at hanswers
      exact hanswers

end Conductor

namespace Sample

/-- Two steps of one command each, with a log each; the logs may be one file. -/
def logging (first second : String) : Config where
  language := Config.defaultLanguage
  env := .empty
  defaultGroups := none
  axes := []
  groups := [⟨"workspace", "", [
    ⟨"format", none, [⟨"cargo fmt", none, some first⟩]⟩,
    ⟨"lint", none, [⟨"cargo clippy", none, some second⟩]⟩]⟩]

/-- The first step of the plan. -/
def formatStep (log : String) : Step where
  name := "format"
  group := "workspace"
  commands := [command "fmt" (some log)]

/-- The second one. -/
def lintStep (log : String) : Step where
  name := "lint"
  group := "workspace"
  commands := [command "clippy" (some log)]

/-- The plan for the configuration. -/
def loggingPlan (first second : String) : Plan where
  groups := ["workspace"]
  steps := [formatStep first, lintStep second]

/-- A runner under which every command writes its first argument to its log and fails. -/
def writing : Runner := fun _ tree c =>
  let text := String.join (c.args.map line)
  let written := c.log.map fun log => tree.writeFile log (Text.encode text.toList)
  ⟨.exited 1, (written.bind Except.toOption).getD tree, false, [], ⟨0⟩⟩

/-- A conductor with that runner. -/
def writer : Conductor where
  runner := writing
  process := ⟨[], none⟩
  narration := ⟨.english, false⟩
  reporting := ⟨.english, false⟩

theorem plan_logging :
    CheckMatrix.plan ⟨[], none⟩ tree (logging "check.log" "lint.log") .default root =
      .ok (loggingPlan "/check.log" "/lint.log") :=
  eq_ok_of_toOption (by decide +kernel)

theorem plan_sharing :
    CheckMatrix.plan ⟨[], none⟩ tree (logging "check.log" "check.log") .default root =
      .ok (loggingPlan "/check.log" "/check.log") :=
  eq_ok_of_toOption (by decide +kernel)

/-- The try of the first command by the writer. -/
def formatTry (log : String) : Try where
  command := command "fmt" (some log)
  reaction := writing [] tree (command "fmt" (some log))

/-- The try of the second command behind it. -/
def lintTry (first second : String) : Try where
  command := command "clippy" (some second)
  reaction := writing [(formatTry first).command] (formatTry first).reaction.tree
    (command "clippy" (some second))

theorem attempts_of_writer {first second : String} {attempts : List Attempt} {l : Ledger}
    (h : writer.Executed (loggingPlan first second)
      (writer.begun (loggingPlan first second) (.start tree)) attempts l) :
    attempts =
      [⟨formatStep first, [formatTry first]⟩, ⟨lintStep second, [lintTry first second]⟩] := by
  obtain ⟨t, u, rfl, htries⟩ :=
    h.attempts_of_two (h.open_of_never rfl fun _ _ _ => rfl) rfl rfl rfl
  obtain ⟨rfl, hrest⟩ := List.cons.inj htries
  obtain ⟨rfl, -⟩ := List.cons.inj hrest
  rfl

/-- The tree that the writer leaves behind. -/
theorem ended_of_writer {first second : String} {attempts : List Attempt} {l : Ledger} {r : Report}
    {sink : Sink}
    (h : writer.Performed (loggingPlan first second) (.start tree) sink attempts l r) :
    (writer.ended (loggingPlan first second) (.start tree)).tree =
      (lintTry first second).reaction.tree := by
  rw [h.handed.tree, attempts_of_writer h.executed]
  rfl

theorem formatTry_holds :
    (formatTry "/check.log").reaction.tree.HoldsText (.ofText "/check.log") "fmt\n" :=
  ⟨[.ofText "check.log"], eq_ok_of_toOption (by decide +kernel)⟩

theorem lintTry_holds :
    (lintTry "/check.log" "/lint.log").reaction.tree.HoldsText (.ofText "/check.log") "fmt\n" :=
  ⟨[.ofText "check.log"], eq_ok_of_toOption (by decide +kernel)⟩

theorem linesOf_fmt : linesOf "fmt\n" = ["fmt"] := by
  decide +kernel

/-- The first step has a log of its own: the details show what its command wrote there. -/
theorem run_shows_log_format :
    CheckMatrix.plan ⟨[], none⟩ tree (logging "check.log" "lint.log") .default root =
        .ok (loggingPlan "/check.log" "/lint.log") ∧
      Sink.unlimited.limit = none ∧ Sink.unlimited.flushFails = false ∧
      ∃ l r,
        (writer.run (logging "check.log" "lint.log") .default root (.start tree) .unlimited).2.2 =
          .ok ⟨l, r⟩ ∧
        Shows writer.reporting
          (writer.ended (loggingPlan "/check.log" "/lint.log") (.start tree)).tree l "format"
          (.ofText "/check.log") ["fmt"] := by
  obtain ⟨attempts, l, r, hran, hresult, hshows⟩ :=
    writer.run_shows_log (s := .start tree) plan_logging (rfl : Sink.unlimited.limit = none) rfl
  have hlater : ∀ t ∈ [lintTry "/check.log" "/lint.log"],
      t.reaction.tree.HoldsText (.ofText "/check.log") "fmt\n" := by
    intro t ht
    rw [List.mem_singleton.1 ht]
    exact lintTry_holds
  obtain ⟨shown, hsuffix, hlength, hshows⟩ := hshows []
    ⟨formatStep "/check.log", [formatTry "/check.log"]⟩
    [⟨lintStep "/lint.log", [lintTry "/check.log" "/lint.log"]⟩] [] (formatTry "/check.log")
    (.ofText "/check.log") "fmt\n" (attempts_of_writer hran) rfl rfl rfl formatTry_holds hlater
  rw [linesOf_fmt] at hsuffix hlength
  have hshown : shown = ["fmt"] := hsuffix.eq_of_length hlength
  subst hshown
  exact ⟨plan_logging, rfl, rfl, l, r, by rw [hresult], hshows⟩

/-- The two steps share a log, and the second command replaces what the first one wrote: the
details on the first step do not show it. -/
theorem run_shows_other_log :
    CheckMatrix.plan ⟨[], none⟩ tree (logging "check.log" "check.log") .default root =
        .ok (loggingPlan "/check.log" "/check.log") ∧
      ∃ attempts l r,
        writer.Executed (loggingPlan "/check.log" "/check.log")
          (writer.begun (loggingPlan "/check.log" "/check.log") (.start tree)) attempts l ∧
        (writer.ended (loggingPlan "/check.log" "/check.log") (.start tree)).cancelled = false ∧
        (writer.run (logging "check.log" "check.log") .default root (.start tree) .unlimited).2.2 =
          .ok ⟨l, r⟩ ∧
        attempts.head? = some ⟨formatStep "/check.log", [formatTry "/check.log"]⟩ ∧
        (formatTry "/check.log").succeeded = false ∧
        (formatTry "/check.log").outcome.launchError = none ∧
        (formatTry "/check.log").command.log = some (.ofText "/check.log") ∧
        (formatTry "/check.log").reaction.tree.HoldsText (.ofText "/check.log") "fmt\n" ∧
        ¬ ∃ shown, shown <:+ linesOf "fmt\n" ∧
          shown.length = min shownLogLines (linesOf "fmt\n").length ∧
          Shows writer.reporting
            (writer.ended (loggingPlan "/check.log" "/check.log") (.start tree)).tree l "format"
            (.ofText "/check.log") shown := by
  obtain ⟨attempts, l, r, hran⟩ := writer.perform_performed (plan_wf plan_sharing) (.start tree)
    .unlimited
  have hattempts := attempts_of_writer hran.executed
  refine ⟨plan_sharing, attempts, l, r, hran.executed, ?_, ?_, ?_, rfl, rfl, rfl, formatTry_holds,
    ?_⟩
  · exact hran.executed.open_of_never rfl fun _ _ _ => rfl
  · rw [Conductor.run_of_plan (k := writer) (s := .start tree) plan_sharing]
    exact hran.result_iff.2 ⟨rfl, Conductor.takes_of_unlimited rfl _, rfl⟩
  · rw [hattempts]
    rfl
  · rintro ⟨shown, hsuffix, hlength, hshows⟩
    rw [linesOf_fmt] at hsuffix hlength
    have hshown : shown = ["fmt"] := hsuffix.eq_of_length hlength
    subst hshown
    have hlines := hshows.logLines_eq
    rw [ended_of_writer hran] at hlines
    exact absurd hlines (by decide +kernel)

end Sample

end CheckMatrix
