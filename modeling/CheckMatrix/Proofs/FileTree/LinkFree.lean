/-
Trees without symbolic links.

Where there are no links, a path is followed in one go: how many links it may lead through does not
matter, and neither does whether a link at its end is meant (`walk_of_linkFree`).  Slashes at the end
of a path ask for a directory and do nothing else (`walk_slashes`).  So what becomes of a file that
is to be removed is settled by what its path leads to (`removeFile_of_linkFree`).

Directories stay when a file goes, so no path is led elsewhere.  A path that led to the file, or
went on behind its name, leads nowhere afterwards, and every other path is followed as before
(`find_erase`).
-/
import CheckMatrix.Proofs.FileTree.Subdirectories

namespace CheckMatrix

namespace FileTree

open CheckMatrix.Path

/-- No entry is a symbolic link. -/
def LinkFree (t : FileTree) : Prop :=
  ∀ l target, t.get? l ≠ some (.link target)

variable {t after : FileTree} {p : Path} {l dir : Location} {e : Entry} {hs : List Hop}

/-- A tree is free of links if none is among its entries. -/
theorem linkFree_of_all (h : (t.entries.all fun entry =>
    match entry.2 with
    | .link _ => false
    | _ => true) = true) : t.LinkFree := by
  intro l target hlink
  unfold get? at hlink
  split at hlink
  · cases hlink
  · obtain ⟨before, behind, hentries, -⟩ := List.lookup_eq_some_iff.1 hlink
    have hmem : (l, Entry.link target) ∈ t.entries := by
      rw [hentries]
      exact List.mem_append_right _ List.mem_cons_self
    have hnone := List.all_eq_true.1 h _ hmem
    cases hnone

theorem Shrunk.linkFree (h : t.Shrunk after) (ht : t.LinkFree) : after.LinkFree :=
  fun l target hlink => ht l target (h.entries l _ hlink)

/-! ### One way to follow a path -/

theorem follow_of_linkFree (ht : t.LinkFree) {pursuit : Pursuit} (hfile : pursuit ≠ .file)
    {jump other : Location → List Hop → Except FileError Target} :
    ∀ {hs : List Hop} {dir : Location},
      t.follow pursuit jump dir hs = t.follow .goal other dir hs := by
  intro hs
  induction hs with
  | nil => exact fun {_} => rfl
  | cons hop rest ih =>
      intro dir
      cases hop with
      | here => exact ih
      | slash => exact ih
      | up => exact ih
      | name name =>
          rw [follow, follow]
          simp only [hfile, reduceCtorEq, decide_false, Bool.and_false, Bool.false_eq_true, if_false]
          cases hthere : t.get? (dir ++ [name]) with
          | none => rfl
          | some e =>
              cases e with
              | dir => simp only [ih]
              | link target => exact absurd hthere (ht _ _)
              | file content => rfl
              | program name => rfl
              | faulty => rfl
              | null => rfl

theorem goal_ne_file : Pursuit.goal ≠ .file := by decide

theorem entry_ne_file : Pursuit.entry ≠ .file := by decide

/-- Without links, every pursuit but that of a new file is the same. -/
theorem walk_of_linkFree (ht : t.LinkFree) {pursuit : Pursuit} (hfile : pursuit ≠ .file)
    (links : Nat) : t.walk pursuit links dir hs = t.walk .goal 0 dir hs := by
  rw [walk_eq_follow, walk_eq_follow]
  exact follow_of_linkFree ht hfile

/-- What a path with slashes at its end leads to. -/
def demandDirectory : Except FileError Target → Except FileError Target
  | .ok (.found l .dir) => .ok (.found l .dir)
  | .ok (.found _ _) => .error .notDirectory
  | other => other

theorem walk_slashes (ht : t.LinkFree) (k : Nat) : ∀ {hs : List Hop} {dir : Location},
    t.walk .goal 0 dir (hs ++ List.replicate (k + 1) .slash) =
      demandDirectory (t.walk .goal 0 dir hs) := by
  intro hs
  simp only [walk]
  induction hs with
  | nil =>
      intro dir
      have hfound := (leads_slashes t 0 dir (k + 1)).walk (by simp)
      rw [walk] at hfound
      rw [List.nil_append, hfound]
      rfl
  | cons hop rest ih =>
      intro dir
      cases hop with
      | here => exact ih
      | slash => exact ih
      | up => exact ih
      | name name =>
          have hall : (rest ++ List.replicate (k + 1) Hop.slash).all (· = .slash) =
              rest.all (· = .slash) := by
            simp [List.all_append]
          have hnonempty : (rest ++ List.replicate (k + 1) Hop.slash).isEmpty = false := by simp
          rw [List.cons_append, follow, follow]
          simp only [hall, hnonempty, reduceCtorEq, decide_false, Bool.and_false,
            Bool.false_eq_true, if_false, ih]
          split
          · rfl
          cases hthere : t.get? (dir ++ [name]) with
          | none => cases rest.all (· = .slash) <;> rfl
          | some e =>
              cases e with
              | dir => rfl
              | link target => exact absurd hthere (ht _ _)
              | file content => cases rest <;> rfl
              | program name => cases rest <;> rfl
              | faulty => cases rest <;> rfl
              | null => cases rest <;> rfl

/-! ### Removing a file -/

/-- The slashes at the end of a path ask for a directory. -/
theorem walk_unslashed (ht : t.LinkFree) (hsome : p.unslashed.isEmpty = false) :
    t.walk .goal maxLinks (origin p t.cwd) (hops p) =
      if p.isSlashed then
        demandDirectory (t.walk .entry maxLinks (origin p.unslashed t.cwd) (hops p.unslashed))
      else t.walk .entry maxLinks (origin p.unslashed t.cwd) (hops p.unslashed) := by
  obtain ⟨k, hhops, hslashed⟩ := hops_unslashed p
  rw [origin_unslashed hsome, hhops, walk_of_linkFree ht goal_ne_file,
    walk_of_linkFree ht entry_ne_file, hslashed]
  cases k with
  | zero =>
      rw [List.replicate_zero, List.append_nil]
      rfl
  | succ k =>
      rw [walk_slashes ht]
      rfl

/-- Slashes alone are no file. -/
theorem removeFile_slashes (hempty : p.unslashed.isEmpty = true) (hshort : p.bytes.length ≤ maxPath) :
    t.removeFile p =
      match t.find p with
      | .error e => .error e
      | .ok (_, .dir) => .error .isDirectory
      | .ok (l, _) => .ok (t.erase l) := by
  obtain ⟨k, hbytes, hslashed⟩ := exists_unslashed p
  rw [List.isEmpty_iff.1 hempty, List.nil_append] at hbytes
  unfold removeFile
  simp only [if_neg fun hlong : p.bytes.length > maxPath ∧ _ => absurd hlong.1 (Nat.not_lt.2 hshort)]
  rw [hempty, hslashed, Bool.and_true]
  cases k with
  | zero =>
      have hnone : ∀ {q : Path} {pursuit : Pursuit}, q.isEmpty = true →
          t.resolve q pursuit = .error .notFound := by
        intro q pursuit hq
        have hnil := List.isEmpty_iff.1 hq
        rw [resolve, if_neg (by simp [hnil]), trace, if_neg (by simp [hnil]), if_pos hq]
      rw [find, hnone (List.isEmpty_iff.2 hbytes), hnone hempty]
      rfl
  | succ k =>
      rw [find_slashes hbytes hshort]
      rfl

/-- **Without links, removing a file is settled by what its path leads to.** -/
theorem removeFile_of_linkFree (ht : t.LinkFree) (p : Path) :
    t.removeFile p =
      match t.find p with
      | .error e => .error e
      | .ok (_, .dir) => .error .isDirectory
      | .ok (l, _) => .ok (t.erase l) := by
  by_cases hlong : p.bytes.length > maxPath ∧ !p.bytes.contains 0
  · unfold removeFile
    rw [find, resolve, if_pos hlong]
    simp only [if_pos hlong]
  by_cases hnul : p.bytes.contains 0 = true
  · have hbare := contains_unslashed p ▸ hnul
    have hsome : p.unslashed.isEmpty = false := by
      rw [isEmpty, List.isEmpty_eq_false_iff]
      intro hnil
      rw [hnil] at hbare
      cases hbare
    unfold removeFile
    simp only [if_neg hlong]
    rw [hsome, Bool.and_false, find, resolve_of_nul hnul, resolve_of_nul hbare]
    rfl
  have hclean := Bool.eq_false_iff.2 hnul
  have hshort : p.bytes.length ≤ maxPath :=
    Nat.le_of_not_lt fun h => hlong ⟨h, by rw [hclean]; rfl⟩
  by_cases hempty : p.unslashed.isEmpty = true
  · exact removeFile_slashes hempty hshort
  have hsome := Bool.eq_false_iff.2 hempty
  have hlength : p.unslashed.bytes.length ≤ p.bytes.length := by
    obtain ⟨k, hbytes, -⟩ := exists_unslashed p
    rw [hbytes, List.length_append]
    exact Nat.le_add_right _ _
  have hbare : Followable p.unslashed :=
    ⟨hsome, hlength.trans hshort, contains_unslashed p ▸ hclean⟩
  have hp := hbare.of_unslashed hshort
  unfold removeFile
  simp only [if_neg hlong]
  rw [find, hp.resolve_eq, hbare.resolve_eq, walk_unslashed ht hsome, hsome, Bool.and_false]
  cases t.walk .entry maxLinks (origin p.unslashed t.cwd) (hops p.unslashed) with
  | error e => cases p.isSlashed <;> rfl
  | ok target =>
      cases target with
      | missing dir name => cases p.isSlashed <;> rfl
      | found l e => cases p.isSlashed <;> cases e <;> rfl

/-- What removing a file did when it was done, -/
theorem found_of_removeFile_ok (ht : t.LinkFree) (h : t.removeFile p = .ok after) :
    ∃ l e, t.find p = .ok (l, e) ∧ e ≠ .dir ∧ after = t.erase l := by
  rw [removeFile_of_linkFree ht] at h
  split at h
  · cases h
  · cases h
  · rename_i l e hdir hfind
    cases h
    exact ⟨l, e, hfind, hdir, rfl⟩

/-- and why it was refused. -/
theorem find_of_removeFile_error {cause : FileError} (ht : t.LinkFree)
    (h : t.removeFile p = .error cause) :
    t.find p = .error cause ∨ (∃ l, t.find p = .ok (l, .dir)) ∧ cause = .isDirectory := by
  rw [removeFile_of_linkFree ht] at h
  split at h
  · rename_i hfind
    cases h
    exact .inl hfind
  · rename_i l hfind
    cases h
    exact .inr ⟨⟨l, hfind⟩, rfl⟩
  · cases h

/-! ### Ways that are closed -/

theorem walk_error (ht : t.LinkFree) {cause : FileError} : ∀ (hs : List Hop) (dir : Location),
    t.walk .goal 0 dir hs = .error cause →
      cause = .notFound ∨ cause = .notDirectory ∨ cause = .nameTooLong := by
  intro hs
  simp only [walk]
  induction hs with
  | nil => exact fun _ h => nomatch h
  | cons hop rest ih =>
      intro dir h
      cases hop with
      | here => exact ih dir h
      | slash => exact ih dir h
      | up => exact ih dir.dropLast h
      | name name =>
          rw [follow] at h
          simp only [reduceCtorEq, decide_false, Bool.and_false, Bool.false_eq_true, if_false] at h
          split at h
          · cases h
            exact .inr (.inr rfl)
          split at h
          · split at h
            · cases h
            · cases h
              exact .inl rfl
          · exact ih _ h
          · rename_i hlink
            exact absurd hlink (ht _ _)
          · split at h
            · cases h
            · cases h
              exact .inr (.inl rfl)

/-- Why a path leads nowhere: there is nothing, something on the way is no directory, or the path
itself is none that the system takes. -/
theorem find_error (ht : t.LinkFree) {cause : FileError} (h : t.find p = .error cause) :
    cause = .notFound ∨ cause = .notDirectory ∨ cause = .nameTooLong ∨ cause = .nulInName := by
  by_cases hp : Followable p
  · rw [find, hp.resolve_eq, walk_of_linkFree ht goal_ne_file] at h
    split at h
    · rename_i hwalk
      cases h
      rcases walk_error ht _ _ hwalk with rfl | rfl | rfl <;> simp
    · cases h
      exact .inl rfl
    · cases h
  · obtain ⟨other, hother, hrefused⟩ := resolve_of_not_followable hp
    rw [find, hrefused] at h
    cases h
    rcases hother with rfl | rfl | rfl <;> simp

/-! ### One file less -/

/-- What the hops lead to is not there. -/
def Lost : Except FileError Target → Prop
  | .error .notFound => True
  | .ok (.missing ..) => True
  | _ => False

/-- A walk comes to the entry that was erased, or goes on as before. -/
theorem walk_erase (ht : t.LinkFree) (hthere : t.get? l = some e) (hdir : e ≠ .dir) :
    ∀ (hs : List Hop) (dir : Location),
      (t.erase l).walk .goal 0 dir hs = t.walk .goal 0 dir hs ∨
        Lost ((t.erase l).walk .goal 0 dir hs) ∧
          (t.walk .goal 0 dir hs = .ok (.found l e) ∨
            t.walk .goal 0 dir hs = .error .notDirectory) := by
  intro hs
  simp only [walk]
  induction hs with
  | nil => exact fun _ => .inl rfl
  | cons hop rest ih =>
      intro dir
      cases hop with
      | here => exact ih dir
      | slash => exact ih dir
      | up => exact ih dir.dropLast
      | name name =>
          rw [follow, follow]
          simp only [reduceCtorEq, decide_false, Bool.and_false, Bool.false_eq_true, if_false]
          by_cases hlong : name.bytes.length > maxName
          · rw [if_pos hlong, if_pos hlong]
            exact .inl rfl
          rw [if_neg hlong, if_neg hlong]
          by_cases hl : dir ++ [name] = l
          · have hgone : (t.erase l).get? l = none := get?_erase_self t (by rw [← hl]; simp)
            rw [hl, hgone, hthere]
            refine .inr ⟨?_, ?_⟩
            · cases rest.all (· = .slash) <;> trivial
            · cases e with
              | dir => exact absurd rfl hdir
              | link target => exact absurd hthere (ht _ _)
              | file content => cases rest <;> simp
              | program name => cases rest <;> simp
              | faulty => cases rest <;> simp
              | null => cases rest <;> simp
          · rw [get?_erase_of_ne t hl]
            cases hother : t.get? (dir ++ [name]) with
            | none => exact .inl rfl
            | some entry =>
                cases entry with
                | dir => exact ih (dir ++ [name])
                | link target => exact absurd hother (ht _ _)
                | file content => exact .inl rfl
                | program name => exact .inl rfl
                | faulty => exact .inl rfl
                | null => exact .inl rfl

/-- **What becomes of the ways through a tree when a file is taken out of it.** -/
theorem find_erase (ht : t.LinkFree) (hthere : t.get? l = some e) (hdir : e ≠ .dir) (p : Path) :
    (t.erase l).find p = t.find p ∨
      (t.erase l).find p = .error .notFound ∧
        (t.find p = .ok (l, e) ∨ t.find p = .error .notDirectory) := by
  by_cases hp : Followable p
  · have herased : (t.erase l).LinkFree := (shrunk_erase t l).linkFree ht
    rw [find, find, hp.resolve_eq, hp.resolve_eq, walk_of_linkFree herased goal_ne_file,
      walk_of_linkFree ht goal_ne_file]
    rcases walk_erase ht hthere hdir (hops p) (origin p t.cwd) with hsame | ⟨hlost, hbefore⟩
    · rw [← hsame]
      exact .inl rfl
    · refine .inr ⟨?_, ?_⟩
      · have hcwd : origin p (t.erase l).cwd = origin p t.cwd := rfl
        rw [hcwd]
        generalize (t.erase l).walk .goal 0 (origin p t.cwd) (hops p) = target at hlost
        unfold Lost at hlost
        split at hlost
        · rfl
        · rfl
        · exact hlost.elim
      · rcases hbefore with hfound | hrefused
        · rw [hfound]
          exact .inl rfl
        · rw [hrefused]
          exact .inr rfl
  · obtain ⟨cause, -, hcause⟩ := resolve_of_not_followable hp
    rw [find, find, hcause, hcause]
    exact .inl rfl

/-- What is found without a file was found before, and is not the file. -/
theorem find_erase_eq_ok_iff (ht : t.LinkFree) (hthere : t.get? l = some e) (hdir : e ≠ .dir)
    {m : Location} {x : Entry} :
    (t.erase l).find p = .ok (m, x) ↔ t.find p = .ok (m, x) ∧ (x = .dir ∨ m ≠ l) := by
  constructor
  · intro h
    obtain ⟨hp, hleads⟩ := find_eq_ok_iff.1 h
    refine ⟨find_eq_ok_iff.2 ⟨hp, hleads.mono (shrunk_erase t l).entries⟩, ?_⟩
    by_cases hx : x = .dir
    · exact .inl hx
    · refine .inr ?_
      rintro rfl
      have hstill := hleads.get?_eq hx
      rw [get?_erase_self t (ne_nil_of_get? hthere hdir)] at hstill
      cases hstill
  · rintro ⟨h, hother⟩
    rcases find_erase ht hthere hdir p with hsame | ⟨-, hbefore⟩
    · exact hsame.trans h
    · rw [h] at hbefore
      rcases hbefore with hfile | hfile
      · cases hfile
        exact (hother.elim hdir (fun hne => hne rfl)).elim
      · cases hfile

end FileTree

end CheckMatrix
