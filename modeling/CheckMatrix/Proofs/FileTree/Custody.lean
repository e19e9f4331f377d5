/-
What a guard removes, in the course of time.

A guard is filled path by path and emptied in one go, by a cleanup or when it is dropped, while
others go on changing the files.  So what it is over at any moment can be told from the acts alone:
the paths that were registered since it was last emptied, each once (`Custody.guard_after`).

What emptying it does is told by `Attempted`, one constructor for each way to deal with a path, and
in a tree without links this comes down to where the paths lead (`Cleared`).  Removing one file
closes no way but those to it or behind it, so it does not matter to what is left in which order the
paths come; it does matter to what is said about a path behind a file that goes first.

A path that leads nowhere is passed over only if there is nothing at its end.  If a file stands in
the way, the path is given back although it does not exist (`Sample.cleanup_returns_missing`).
-/
import CheckMatrix.Proofs.Distinct
import CheckMatrix.Proofs.FileTree.LinkFree

namespace CheckMatrix

/-! ### Dealing with one path after the other -/

namespace LogGuard

open FileTree

/-- The paths are dealt with in order, each once, whatever became of those before.  A path is given
back with the reason when its file could not be removed, unless there was none. -/
inductive Attempted : FileTree → List Path → FileTree → List (Path × FileError) → Prop
  | nil {t : FileTree} : Attempted t [] t []
  | removed {t mid after : FileTree} {p : Path} {rest : List Path}
      {failures : List (Path × FileError)} (h : t.removeFile p = .ok mid)
      (hrest : Attempted mid rest after failures) : Attempted t (p :: rest) after failures
  | absent {t after : FileTree} {p : Path} {rest : List Path}
      {failures : List (Path × FileError)} (h : t.removeFile p = .error .notFound)
      (hrest : Attempted t rest after failures) : Attempted t (p :: rest) after failures
  | refused {t after : FileTree} {p : Path} {rest : List Path}
      {failures : List (Path × FileError)} {cause : FileError}
      (h : t.removeFile p = .error cause) (hcause : cause ≠ .notFound)
      (hrest : Attempted t rest after failures) :
      Attempted t (p :: rest) after ((p, cause) :: failures)

theorem removeAll_attempted (paths : List Path) :
    ∀ (t : FileTree) (known : List (Path × FileError)), ∃ failures,
      (paths.foldl removeOne (t, known)).2 = known ++ failures ∧
        Attempted t paths (paths.foldl removeOne (t, known)).1 failures := by
  induction paths with
  | nil => exact fun t known => ⟨[], (List.append_nil known).symm, .nil⟩
  | cons p rest ih =>
      intro t known
      rw [List.foldl_cons]
      cases hremove : t.removeFile p with
      | ok mid =>
          have hstep : removeOne (t, known) p = (mid, known) := by rw [removeOne, hremove]
          obtain ⟨failures, hall, hrest⟩ := ih mid known
          rw [hstep]
          exact ⟨failures, hall, .removed hremove hrest⟩
      | error cause =>
          by_cases hcause : cause = .notFound
          · subst hcause
            have hstep : removeOne (t, known) p = (t, known) := by rw [removeOne, hremove]
            obtain ⟨failures, hall, hrest⟩ := ih t known
            rw [hstep]
            exact ⟨failures, hall, .absent hremove hrest⟩
          · have hstep : removeOne (t, known) p = (t, known ++ [(p, cause)]) := by
              unfold removeOne
              rw [hremove]
              split
              · rename_i h
                cases h
              · rename_i h
                cases h
                exact absurd rfl hcause
              · rename_i h
                cases h
                rfl
            obtain ⟨failures, hall, hrest⟩ := ih t (known ++ [(p, cause)])
            rw [hstep]
            exact ⟨(p, cause) :: failures, by rw [hall, List.append_assoc]; rfl,
              .refused hremove hcause hrest⟩

theorem cleanup_attempted (g : LogGuard) (t : FileTree) :
    Attempted t g.paths (g.cleanup t).1 (g.cleanup t).2 := by
  obtain ⟨failures, hall, hattempted⟩ := removeAll_attempted g.paths t []
  rw [cleanup, hall]
  exact hattempted

/-! ### What is left -/

variable {t mid after : FileTree} {p q : Path} {paths rest : List Path} {l k : Location} {e : Entry}
  {failures : List (Path × FileError)}

/-- One of the paths leads to a location, and what is there is no directory. -/
def Aimed (t : FileTree) (paths : List Path) (l : Location) : Prop :=
  ∃ p ∈ paths, ∃ e, t.find p = .ok (l, e) ∧ e ≠ .dir

/-- What dealing with some paths comes to, in a tree without links. -/
structure Cleared (t : FileTree) (paths : List Path) (after : FileTree)
    (failures : List (Path × FileError)) : Prop where
  /-- The paths are dealt with in order. -/
  attempted : Attempted t paths after failures
  /-- Nothing is where the paths led to a file, -/
  taken : ∀ l, Aimed t paths l → after.get? l = none
  /-- and everything else is as it was. -/
  kept : ∀ l, ¬ Aimed t paths l → after.get? l = t.get? l
  /-- Any path leads to what it led to, unless one of the paths led there to a file. -/
  found : ∀ q l e, after.find q = .ok (l, e) ↔
    t.find q = .ok (l, e) ∧ (e = .dir ∨ ¬ Aimed t paths l)
  /-- No path leads anywhere but those that are given back. -/
  gone : ∀ p ∈ paths, after.pathExists p = false ∨ ∃ cause, (p, cause) ∈ failures
  /-- Every path that led to a directory is given back. -/
  directories : ∀ p ∈ paths, t.isDirectory p = true → (p, .isDirectory) ∈ failures
  /-- A path that is given back led to a directory, or nowhere for a reason other than that there
  was nothing. -/
  returned : ∀ p cause, (p, cause) ∈ failures →
    t.isDirectory p = true ∧ cause = .isDirectory ∨
      t.find p = .error cause ∧
        (cause = .notDirectory ∨ cause = .nameTooLong ∨ cause = .nulInName)
  /-- The paths that are given back are in order, each once. -/
  inOrder : (failures.map Prod.fst).Sublist paths

/-- A path that led to a file is aimed at it, and the others at what is left. -/
theorem aimed_removed_iff (ht : t.LinkFree) (hfind : t.find p = .ok (k, e)) (hdir : e ≠ .dir) :
    Aimed t (p :: rest) l ↔ l = k ∨ Aimed (t.erase k) rest l := by
  have hthere := get?_of_find hfind hdir
  constructor
  · rintro ⟨q, hq, x, hx, hxdir⟩
    rcases List.mem_cons.1 hq with rfl | hq
    · rw [hfind] at hx
      cases hx
      exact .inl rfl
    · by_cases hl : l = k
      · exact .inl hl
      · exact .inr ⟨q, hq, x, (find_erase_eq_ok_iff ht hthere hdir).2 ⟨hx, .inr hl⟩, hxdir⟩
  · rintro (rfl | ⟨q, hq, x, hx, hxdir⟩)
    · exact ⟨p, List.mem_cons_self, e, hfind, hdir⟩
    · exact ⟨q, List.mem_cons_of_mem p hq, x,
        ((find_erase_eq_ok_iff ht hthere hdir).1 hx).1, hxdir⟩

/-- A path that is refused is aimed at nothing. -/
theorem aimed_refused_iff {cause : FileError} (ht : t.LinkFree)
    (h : t.removeFile p = .error cause) : Aimed t (p :: rest) l ↔ Aimed t rest l := by
  constructor
  · rintro ⟨q, hq, x, hx, hxdir⟩
    rcases List.mem_cons.1 hq with rfl | hq
    · rcases find_of_removeFile_error ht h with hnone | ⟨⟨d, hfound⟩, -⟩
      · rw [hnone] at hx
        cases hx
      · rw [hfound] at hx
        cases hx
        exact absurd rfl hxdir
    · exact ⟨q, hq, x, hx, hxdir⟩
  · rintro ⟨q, hq, x, hx, hxdir⟩
    exact ⟨q, List.mem_cons_of_mem p hq, x, hx, hxdir⟩

theorem not_aimed_nil : ¬ Aimed t [] l := by
  rintro ⟨p, hp, -⟩
  cases hp

/-- Where the entries are that are left. -/
theorem Attempted.entries (h : Attempted t paths after failures) (ht : t.LinkFree) (l : Location) :
    (Aimed t paths l → after.get? l = none) ∧ (¬ Aimed t paths l → after.get? l = t.get? l) := by
  induction h with
  | nil => exact ⟨fun haimed => absurd haimed not_aimed_nil, fun _ => rfl⟩
  | @removed t mid after p rest failures h hrest ih =>
      obtain ⟨k, e, hfind, hdir, rfl⟩ := found_of_removeFile_ok ht h
      obtain ⟨htaken, hkept⟩ := ih ((shrunk_erase t k).linkFree ht)
      rw [aimed_removed_iff ht hfind hdir]
      by_cases hl : l = k
      · subst hl
        have hroot := ne_nil_of_get? (get?_of_find hfind hdir) hdir
        refine ⟨fun _ => ?_, fun hnot => absurd (.inl rfl) hnot⟩
        by_cases haimed : Aimed (t.erase l) rest l
        · exact htaken haimed
        · rw [hkept haimed, get?_erase_self t hroot]
      · simp only [hl, false_or]
        rw [get?_erase_of_ne t hl] at hkept
        exact ⟨htaken, hkept⟩
  | absent h hrest ih =>
      rw [aimed_refused_iff ht h]
      exact ih ht
  | refused h hcause hrest ih =>
      rw [aimed_refused_iff ht h]
      exact ih ht

/-- Where the ways lead that are left. -/
theorem Attempted.found (h : Attempted t paths after failures) (ht : t.LinkFree) :
    after.find q = .ok (l, e) ↔ t.find q = .ok (l, e) ∧ (e = .dir ∨ ¬ Aimed t paths l) := by
  induction h with
  | nil => exact ⟨fun h => ⟨h, .inr not_aimed_nil⟩, And.left⟩
  | removed h hrest ih =>
      obtain ⟨k, x, hfind, hdir, rfl⟩ := found_of_removeFile_ok ht h
      have hthere := get?_of_find hfind hdir
      rw [ih ((shrunk_erase _ k).linkFree ht), find_erase_eq_ok_iff ht hthere hdir,
        aimed_removed_iff ht hfind hdir]
      tauto
  | absent h hrest ih =>
      rw [aimed_refused_iff ht h]
      exact ih ht
  | refused h hcause hrest ih =>
      rw [aimed_refused_iff ht h]
      exact ih ht

/-- A directory is one however many files are removed. -/
theorem isDirectory_erase (ht : t.LinkFree) (hthere : t.get? l = some e) (hdir : e ≠ .dir)
    (p : Path) : (t.erase l).isDirectory p = t.isDirectory p := by
  rw [Bool.eq_iff_iff, isDirectory_iff, isDirectory_iff]
  simp only [find_erase_eq_ok_iff ht hthere hdir, true_or, and_true]

theorem Attempted.directories (h : Attempted t paths after failures) (ht : t.LinkFree) :
    ∀ p ∈ paths, t.isDirectory p = true → (p, .isDirectory) ∈ failures := by
  induction h with
  | nil => exact List.forall_mem_nil _
  | removed h hrest ih =>
      obtain ⟨k, x, hfind, hdir, rfl⟩ := found_of_removeFile_ok ht h
      have hthere := get?_of_find hfind hdir
      refine List.forall_mem_cons.2 ⟨fun hp => ?_, fun q hq hqdir => ?_⟩
      · obtain ⟨d, hd⟩ := isDirectory_iff.1 hp
        rw [hd] at hfind
        cases hfind
        exact absurd rfl hdir
      · rw [← isDirectory_erase ht hthere hdir] at hqdir
        exact ih ((shrunk_erase _ k).linkFree ht) q hq hqdir
  | absent h hrest ih =>
      refine List.forall_mem_cons.2 ⟨fun hp => ?_, ih ht⟩
      obtain ⟨d, hd⟩ := isDirectory_iff.1 hp
      rw [removeFile_of_linkFree ht, hd] at h
      cases h
  | refused h hcause hrest ih =>
      refine List.forall_mem_cons.2 ⟨fun hp => ?_, fun q hq hqdir => ?_⟩
      · obtain ⟨d, hd⟩ := isDirectory_iff.1 hp
        rw [removeFile_of_linkFree ht, hd] at h
        cases h
        exact List.mem_cons_self
      · exact List.mem_cons_of_mem _ (ih ht q hq hqdir)

theorem Attempted.returned (h : Attempted t paths after failures) (ht : t.LinkFree) :
    ∀ p cause, (p, cause) ∈ failures → t.isDirectory p = true ∧ cause = .isDirectory ∨
      t.find p = .error cause ∧
        (cause = .notDirectory ∨ cause = .nameTooLong ∨ cause = .nulInName) := by
  induction h with
  | nil => exact fun _ _ hmem => nomatch hmem
  | removed h hrest ih =>
      obtain ⟨k, x, hfind, hdir, rfl⟩ := found_of_removeFile_ok ht h
      have hthere := get?_of_find hfind hdir
      intro q cause hq
      have hlater := ih ((shrunk_erase _ k).linkFree ht) q cause hq
      rw [isDirectory_erase ht hthere hdir] at hlater
      refine hlater.imp_right ?_
      rintro ⟨herror, hcause⟩
      refine ⟨?_, hcause⟩
      -- a way that was closed by the removal would end at nothing
      rcases find_erase ht hthere hdir q with hsame | ⟨hnone, -⟩
      · rw [← hsame, herror]
      · rw [herror] at hnone
        cases hnone
        simp at hcause
  | absent h hrest ih => exact ih ht
  | refused h hcause hrest ih =>
      intro q cause hq
      rcases List.mem_cons.1 hq with hhead | hq
      · cases hhead
        rcases find_of_removeFile_error ht h with herror | ⟨hfound, rfl⟩
        · exact .inr ⟨herror, (find_error ht herror).resolve_left hcause⟩
        · exact .inl ⟨isDirectory_iff.2 hfound, rfl⟩
      · exact ih ht q cause hq

theorem Attempted.inOrder (h : Attempted t paths after failures) :
    (failures.map Prod.fst).Sublist paths := by
  induction h with
  | nil => exact .slnil
  | removed _ _ ih => exact ih.cons _
  | absent _ _ ih => exact ih.cons _
  | refused _ _ _ ih => exact ih.cons_cons _

/-- **In a tree without links, dealing with some paths comes down to where they lead.** -/
theorem Attempted.cleared (h : Attempted t paths after failures) (ht : t.LinkFree) :
    Cleared t paths after failures where
  attempted := h
  taken l := (h.entries ht l).1
  kept l := (h.entries ht l).2
  found _ _ _ := h.found ht
  gone p hp := by
    unfold pathExists
    split
    · rename_i found hfound
      obtain ⟨l, e⟩ := found
      obtain ⟨hbefore, hleft⟩ := (h.found ht).1 hfound
      by_cases hdir : e = .dir
      · subst hdir
        exact .inr ⟨_, h.directories ht p hp (isDirectory_iff.2 ⟨l, hbefore⟩)⟩
      · exact absurd ⟨p, hp, e, hbefore, hdir⟩ (hleft.resolve_left hdir)
    · exact .inl rfl
  directories := h.directories ht
  returned := h.returned ht
  inOrder := h.inOrder

end LogGuard

/-! ### What a guard is over -/

/-- An act that empties the guard. -/
def GuardAct.isSweep : GuardAct → Bool
  | .cleanup => true
  | .drop => true
  | _ => false

/-- The path that an act registers. -/
def GuardAct.registered? : GuardAct → Option Path
  | .register p => some p
  | _ => none

namespace Custody

/-- The paths that were registered since the guard was last emptied. -/
def pending (acts : List GuardAct) : List Path :=
  (acts.rtakeWhile fun a => !a.isSweep).filterMap GuardAct.registered?

/-- The distinct ones among them, in the order in which they were registered. -/
def due (acts : List GuardAct) : List Path :=
  firsts Path.same (pending acts)

theorem after_concat (c : Custody) (acts : List GuardAct) (a : GuardAct) :
    c.after (acts ++ [a]) = ((c.after acts).act a).1 :=
  List.foldl_concat _ _ _ _

theorem pending_concat (acts : List GuardAct) (a : GuardAct) :
    pending (acts ++ [a]) =
      if a.isSweep then [] else pending acts ++ a.registered?.toList := by
  cases ha : a.isSweep with
  | true =>
      rw [pending, List.rtakeWhile_concat_neg _ _ _ (by simp [ha])]
      rfl
  | false =>
      rw [pending, List.rtakeWhile_concat_pos _ _ _ (by simp [ha]), List.filterMap_append]
      cases a <;> rfl

/-- **The guard is over the paths registered since it was last emptied, each once.** -/
theorem guard_after (t : FileTree) (acts : List GuardAct) :
    ((Custody.mk t .empty).after acts).guard = ⟨due acts⟩ := by
  have hfirsts : ∀ acts, due acts = keepFirst Path.same (pending acts) :=
    fun acts => (keepFirst_eq_firsts Path.same_refl (fun _ _ _ => Path.same_trans) _).symm
  rw [hfirsts]
  induction acts using List.reverseRecOn with
  | nil => rfl
  | append_singleton acts a ih =>
      rw [after_concat, pending_concat]
      cases a with
      | register p =>
          have hpaths := List.foldl_concat (addNew Path.same) [] p (pending acts)
          simp only [act, LogGuard.register, ih]
          exact congrArg LogGuard.mk hpaths.symm
      | cleanup => rfl
      | drop => rfl
      | others after =>
          simp only [act, ih, GuardAct.isSweep, GuardAct.registered?, Option.toList_none,
            List.append_nil, Bool.false_eq_true, if_false]

/-- What is on a guard that was emptied has been registered since. -/
theorem register_mem_of_due {acts later : List GuardAct} {a : GuardAct} (ha : a.isSweep = true) :
    ∀ p ∈ due (acts ++ a :: later), .register p ∈ later := by
  intro p hp
  rw [due, ← keepFirst_eq_firsts Path.same_refl (fun _ _ _ => Path.same_trans)] at hp
  replace hp := (keepFirst_keeps Path.same_refl _).only p hp
  induction later using List.reverseRecOn with
  | nil =>
      rw [pending_concat, if_pos ha] at hp
      cases hp
  | append_singleton later b ih =>
      rw [← List.cons_append, ← List.append_assoc, pending_concat] at hp
      split at hp
      · cases hp
      · rcases List.mem_append.1 hp with hp | hp
        · exact List.mem_append_left _ (ih hp)
        · cases b with
          | register q =>
              cases List.mem_singleton.1 hp
              exact List.mem_append_right _ List.mem_cons_self
          | cleanup => cases hp
          | drop => cases hp
          | others after => cases hp

theorem linkFree_after {t : FileTree} {acts : List GuardAct} (ht : t.LinkFree)
    (hothers : ∀ after, .others after ∈ acts → after.LinkFree) :
    ((Custody.mk t .empty).after acts).tree.LinkFree := by
  induction acts using List.reverseRecOn with
  | nil => exact ht
  | append_singleton acts a ih =>
      have hbefore := ih fun after h => hothers after (List.mem_append_left _ h)
      have hswept := fun g : LogGuard =>
        (LogGuard.removeAll_shrunk g.paths (((Custody.mk t .empty).after acts).tree, [])).linkFree
          hbefore
      rw [after_concat]
      cases a with
      | register p => exact hbefore
      | cleanup => exact hswept _
      | drop => exact hswept _
      | others after => exact hothers after (List.mem_append_right _ List.mem_cons_self)

/-- **A guard removes exactly what was registered.**  After any acts in trees without links, the
guard is over the distinct paths registered since it was last emptied.  A cleanup deals with each
of them once, in that order, and gives back those that could not be removed; dropping the guard does
the same and prints them.  Afterwards the guard is empty, and only what is registered later is dealt
with the next time. -/
theorem sweep_clears {t : FileTree} {acts : List GuardAct} (ht : t.LinkFree)
    (hothers : ∀ after, .others after ∈ acts → after.LinkFree) :
    ∃ before after failures,
      (Custody.mk t .empty).after acts = ⟨before, ⟨due acts⟩⟩ ∧
      LogGuard.Cleared before (due acts) after failures ∧
      act ⟨before, ⟨due acts⟩⟩ .cleanup = (⟨after, .empty⟩, .returned failures) ∧
      act ⟨before, ⟨due acts⟩⟩ .drop =
        (⟨after, .empty⟩, .printed (failures.map LogGuard.dropNotice)) ∧
      ∀ sweep later, sweep.isSweep = true →
        ∀ p ∈ due (acts ++ sweep :: later), .register p ∈ later := by
  have hguard := guard_after t acts
  have htree := linkFree_after ht hothers
  have hattempted := LogGuard.cleanup_attempted ⟨due acts⟩ ((Custody.mk t .empty).after acts).tree
  refine ⟨_, _, _, ?_, hattempted.cleared htree, rfl, rfl, fun _ _ => register_mem_of_due⟩
  rw [← hguard]

end Custody

namespace Sample

/-- A log that was written, beside a directory. -/
def desk : FileTree where
  entries := [([.ofText "check.log"], .file []), ([.ofText "target"], .dir)]
  cwd := []

/-- Three paths are registered, one of them twice. -/
def filled : List GuardAct :=
  [.register (.ofText "check.log"), .register (.ofText "target"), .register (.ofText "gone.log"),
    .register (.ofText "check.log/.")]

/-- The log is written again behind the cleanup, and another path registered. -/
def refilled : List GuardAct :=
  filled ++ [.cleanup, .others desk, .register (.ofText "gone.log")]

/-- The first cleanup removes the log and gives back the directory, and the second one leaves the
log alone that was written in between. -/
theorem sweep_clears_logs :
    desk.LinkFree ∧ (∀ after, .others after ∈ refilled → after.LinkFree) ∧
      Custody.due filled = [.ofText "check.log", .ofText "target", .ofText "gone.log"] ∧
      (∃ after, LogGuard.Cleared desk (Custody.due filled) after [(.ofText "target", .isDirectory)] ∧
        after.get? [.ofText "check.log"] = none) ∧
      Custody.due refilled = [.ofText "gone.log"] ∧
      ∃ after, LogGuard.Cleared desk (Custody.due refilled) after [] ∧
        after.get? [.ofText "check.log"] = some (.file []) := by
  have hdesk : desk.LinkFree := FileTree.linkFree_of_all (by decide +kernel)
  have hothers : ∀ after, .others after ∈ refilled → after.LinkFree := by
    intro after h
    simp only [refilled, filled, List.cons_append, List.nil_append, List.mem_cons,
      List.not_mem_nil, reduceCtorEq, GuardAct.others.injEq, or_false, false_or] at h
    exact h ▸ hdesk
  have hnone : ∀ after, .others after ∈ filled → after.LinkFree :=
    fun after h => hothers after (List.mem_append_left _ h)
  have hfilled : Custody.due filled =
      [.ofText "check.log", .ofText "target", .ofText "gone.log"] := by decide +kernel
  have hrefilled : Custody.due refilled = [.ofText "gone.log"] := by decide +kernel
  refine ⟨hdesk, hothers, hfilled, ?_, hrefilled, ?_⟩
  · obtain ⟨before, after, failures, hbefore, hcleared, hcleanup, -⟩ :=
      Custody.sweep_clears hdesk hnone
    obtain rfl : desk = before := congrArg Custody.tree hbefore
    have hreply : (Custody.act ⟨desk, ⟨Custody.due filled⟩⟩ .cleanup).2 =
        .returned [(.ofText "target", .isDirectory)] := by decide +kernel
    rw [hcleanup] at hreply
    cases hreply
    refine ⟨after, hcleared, hcleared.taken _ ⟨.ofText "check.log", ?_, .file [], ?_, by simp⟩⟩
    · rw [hfilled]
      exact List.mem_cons_self
    · exact eq_ok_of_toOption (by decide +kernel)
  · obtain ⟨before, after, failures, hbefore, hcleared, hcleanup, -⟩ :=
      Custody.sweep_clears hdesk hothers
    obtain rfl : desk = before := congrArg Custody.tree hbefore
    have hreply : (Custody.act ⟨desk, ⟨Custody.due refilled⟩⟩ .cleanup).2 = .returned [] := by
      decide +kernel
    rw [hcleanup] at hreply
    cases hreply
    refine ⟨after, hcleared, hcleared.kept _ ?_⟩
    rintro ⟨p, hp, e, hfind, -⟩
    rw [hrefilled] at hp
    cases List.mem_singleton.1 hp
    have hgone : desk.find (.ofText "gone.log") = .error .notFound :=
      eq_error_of_refusal? (by decide +kernel)
    rw [hgone] at hfind
    cases hfind

/-- A path behind a file does not exist, and is given back all the same. -/
theorem cleanup_returns_missing :
    desk.LinkFree ∧ desk.pathExists (.ofText "check.log/part") = false ∧
      (((Custody.mk desk .empty).after [.register (.ofText "check.log/part")]).act .cleanup).2 =
        .returned [(.ofText "check.log/part", .notDirectory)] :=
  ⟨FileTree.linkFree_of_all (by decide +kernel), by decide +kernel, by decide +kernel⟩

end Sample

end CheckMatrix
