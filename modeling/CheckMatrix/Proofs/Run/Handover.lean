/-
Handing commands to a runner.

A runner answers from the commands it was given before, the tree and the command at hand, so what
it answers to a row of commands is settled by where the row starts.  `Runner.tries` writes the
answers down beside the commands.

`Session.Handed` says that a session became another one by handing over commands: they are on the
record behind the earlier ones, the answers are the runner's, the tree is the one the last command
left, and none of them was handed over once the run was cancelled.  Whatever is only said or noted
on the way hands over nothing, and stretches of a run are put together by `Handed.trans`; that is
all that the proofs about steps and runs ask of a session.
-/
import CheckMatrix.Run.Session
import Mathlib.Data.List.Basic

namespace CheckMatrix

/-- A command that was run and what came of it. -/
structure Try where
  command : Command
  reaction : Reaction

namespace Try

/-- The outcome of the command. -/
def outcome (t : Try) : CommandOutcome :=
  t.reaction.outcome

/-- Whether the command succeeded. -/
def succeeded (t : Try) : Bool :=
  t.outcome.succeeded

/-- Whether the run was cancelled while the command ran. -/
def cancels (t : Try) : Bool :=
  t.reaction.cancels

end Try

/-- Commands beside what comes of them when they are handed over one after the other. -/
def Runner.tries (runner : Runner) : (past : List Command) → FileTree → List Command → List Try
  | _, _, [] => []
  | past, tree, c :: rest =>
    ⟨c, runner past tree c⟩ :: Runner.tries runner (past ++ [c]) (runner past tree c).tree rest

/-- The tree that is left when some commands were run in `tree`. -/
def treeLeft (tree : FileTree) (tries : List Try) : FileTree :=
  tries.foldl (fun _ t => t.reaction.tree) tree

theorem treeLeft_append (tree : FileTree) (tries others : List Try) :
    treeLeft tree (tries ++ others) = treeLeft (treeLeft tree tries) others :=
  List.foldl_append

/-- What every tree of a row of tries has, the tree at its end has. -/
theorem treeLeft_of_forall {P : FileTree → Prop} {tries : List Try} :
    ∀ {tree : FileTree}, P tree → (∀ t ∈ tries, P t.reaction.tree) → P (treeLeft tree tries) := by
  induction tries with
  | nil => exact fun htree _ => htree
  | cons t rest ih =>
      intro tree _ hall
      exact ih (hall t List.mem_cons_self) fun t' ht' => hall t' (List.mem_cons_of_mem t ht')

/-- Handing over commands in two rows is handing them over in one. -/
theorem Runner.tries_append (runner : Runner) (commands others : List Command) :
    ∀ (past : List Command) (tree : FileTree),
      runner.tries past tree (commands ++ others) =
        runner.tries past tree commands ++
          runner.tries (past ++ commands) (treeLeft tree (runner.tries past tree commands))
            others := by
  induction commands with
  | nil =>
      intro past tree
      rw [List.append_nil]
      rfl
  | cons c rest ih =>
      intro past tree
      simp only [List.cons_append, Runner.tries]
      rw [ih, List.append_assoc]
      rfl

/-- Every try is an answer of the runner. -/
theorem Runner.exists_of_mem_tries {runner : Runner} {commands : List Command} {t : Try} :
    ∀ {past : List Command} {tree : FileTree}, t ∈ runner.tries past tree commands →
      ∃ past tree, t.reaction = runner past tree t.command := by
  induction commands with
  | nil =>
      intro past tree h
      cases h
  | cons c rest ih =>
      intro past tree h
      rcases List.mem_cons.1 h with rfl | h
      · exact ⟨past, tree, rfl⟩
      · exact ih h

/-! ### Stretches of a run -/

/-- The session became another one by handing commands to a runner. -/
structure Session.Handed (runner : Runner) (s : Session) (tries : List Try) (after : Session) :
    Prop where
  /-- The commands are on the record. -/
  commands : after.commands = s.commands ++ tries.map Try.command
  /-- The answers are the runner's. -/
  answers : runner.tries s.commands s.tree (tries.map Try.command) = tries
  /-- Nothing else touches the tree. -/
  tree : after.tree = treeLeft s.tree tries
  /-- A cancellation stays, and nothing but a command brings one. -/
  cancelled : after.cancelled = (s.cancelled || tries.any Try.cancels)
  /-- Whenever a command is handed over, the run is not cancelled. -/
  timely : ∀ earlier t later, tries = earlier ++ t :: later →
    (s.cancelled || earlier.any Try.cancels) = false

namespace Session

variable {runner : Runner} {s mid after : Session} {tries others : List Try}

/-- What leaves the record, the tree and the cancellation alone hands over nothing. -/
theorem Handed.idle (hcommands : after.commands = s.commands) (htree : after.tree = s.tree)
    (hcancelled : after.cancelled = s.cancelled) : s.Handed runner [] after where
  commands := by rw [hcommands, List.map_nil, List.append_nil]
  answers := rfl
  tree := htree
  cancelled := by rw [hcancelled, List.any_nil, Bool.or_false]
  timely := by
    intro earlier t later h
    exact absurd h (by simp)

theorem say_handed (s : Session) (text : String) : s.Handed runner [] (s.say text) :=
  .idle rfl rfl rfl

theorem enter_commands (s : Session) (phase : Phase) : (s.enter phase).commands = s.commands := by
  unfold commands enter
  rw [List.filterMap_append]
  exact List.append_nil _

theorem enter_phase (s : Session) (phase : Phase) : (s.enter phase).phase = phase := by
  unfold Session.phase enter
  rw [List.filterMap_append]
  exact congrArg (Option.getD · Phase.notStarted) List.getLast?_concat

theorem enter_handed (s : Session) (phase : Phase) : s.Handed runner [] (s.enter phase) :=
  .idle (enter_commands s phase) rfl rfl

/-- Having a command run hands it over. -/
theorem run_handed (runner : Runner) (hopen : s.cancelled = false) (c : Command) :
    s.Handed runner [⟨c, runner s.commands s.tree c⟩] (s.run runner c).1 where
  commands := by
    unfold run commands
    rw [List.filterMap_append]
    rfl
  answers := rfl
  tree := rfl
  cancelled := by
    rw [List.any_cons, List.any_nil, Bool.or_false]
    rfl
  timely := by
    intro earlier t later h
    have hnil : earlier = [] := by
      cases earlier with
      | nil => rfl
      | cons e rest => simp at h
    rw [hnil, hopen]
    rfl

/-- Two stretches make one. -/
theorem Handed.trans (h : s.Handed runner tries mid) (h' : mid.Handed runner others after) :
    s.Handed runner (tries ++ others) after where
  commands := by rw [h'.commands, h.commands, List.map_append, List.append_assoc]
  answers := by
    rw [List.map_append, Runner.tries_append, h.answers, ← h.commands, ← h.tree, h'.answers]
  tree := by rw [h'.tree, h.tree, treeLeft_append]
  cancelled := by rw [h'.cancelled, h.cancelled, List.any_append, Bool.or_assoc]
  timely := by
    intro earlier t later hsplit
    rcases List.append_eq_append_iff.1 hsplit with ⟨rest, hearlier, hothers⟩ | ⟨rest, htries, hrest⟩
    · -- the command belongs to the second stretch
      have hmid := h'.timely rest t later hothers
      rw [h.cancelled, Bool.or_assoc] at hmid
      rw [hearlier, List.any_append]
      exact hmid
    · cases rest with
      | nil =>
          have hmid := h'.timely [] t later hrest.symm
          rw [List.any_nil, Bool.or_false, h.cancelled] at hmid
          rw [List.append_nil] at htries
          exact htries ▸ hmid
      | cons t' rest =>
          obtain ⟨rfl, -⟩ := List.cons.inj hrest
          exact h.timely earlier t rest htries

/-- Every try of a stretch is an answer of the runner. -/
theorem Handed.exists_of_mem (h : s.Handed runner tries after) {t : Try} (ht : t ∈ tries) :
    ∃ past tree, t.reaction = runner past tree t.command := by
  rw [← h.answers] at ht
  exact Runner.exists_of_mem_tries ht

/-- A runner that never cancels leaves a session that is not cancelled so. -/
theorem Handed.open_of_never (h : s.Handed runner tries after) (hopen : s.cancelled = false)
    (hnever : ∀ past tree c, (runner past tree c).cancels = false) : after.cancelled = false := by
  rw [h.cancelled, hopen, Bool.false_or, List.any_eq_false]
  intro t ht
  obtain ⟨past, tree, hreaction⟩ := h.exists_of_mem ht
  rw [Try.cancels, hreaction, hnever]
  exact Bool.false_ne_true

/-- A cancelled session hands over nothing. -/
theorem Handed.eq_nil (h : s.Handed runner tries after) (hcancelled : s.cancelled = true) :
    tries = [] := by
  cases tries with
  | nil => rfl
  | cons t rest =>
      have hopen := h.timely [] t rest rfl
      rw [hcancelled] at hopen
      cases hopen

/-- A session that is not cancelled was not cancelled before. -/
theorem Handed.open_of_open (h : s.Handed runner tries after) (hopen : after.cancelled = false) :
    s.cancelled = false := by
  rw [h.cancelled, Bool.or_eq_false_iff] at hopen
  exact hopen.1

end Session

end CheckMatrix
