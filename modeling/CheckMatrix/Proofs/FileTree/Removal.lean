/-
What is left when files are removed.

Removing a file takes away the entry under the last name of its path and nothing else, and cleaning
up does that for one path after the other.  The trees that come up on the way only get smaller
(`Shrunk`), and a way that is closed stays closed in a smaller tree.  So once a path was dealt with
it never leads to a file again, whatever is removed later (`cleanup_gone`), and an entry that none
of the paths leads to is still there in the end (`cleanup_frame`).

Symbolic links need no exception.  A link at the end of a path is removed in place of the file
behind it, and then the path leads nowhere.
-/
import CheckMatrix.LogGuard
import CheckMatrix.Proofs.FileTree.Spelling

namespace CheckMatrix

namespace FileTree

/-! ### Smaller trees -/

/-- A tree with some of the entries of another one. -/
structure Shrunk (t after : FileTree) : Prop where
  cwd : after.cwd = t.cwd
  entries : ∀ l e, after.get? l = some e → t.get? l = some e

variable {t mid after : FileTree} {p : Path} {l : Location} {e : Entry}

theorem Shrunk.refl (t : FileTree) : t.Shrunk t :=
  ⟨rfl, fun _ _ h => h⟩

theorem Shrunk.trans (h : t.Shrunk mid) (h' : mid.Shrunk after) : t.Shrunk after :=
  ⟨h'.cwd.trans h.cwd, fun l e he => h.entries l e (h'.entries l e he)⟩

theorem shrunk_erase (t : FileTree) (l : Location) : t.Shrunk (t.erase l) := by
  refine ⟨rfl, fun m e he => ?_⟩
  by_cases hm : m = l
  · subst hm
    by_cases hroot : m = []
    · rw [hroot] at he ⊢
      exact he
    · rw [get?_erase_self t hroot] at he
      cases he
  · rwa [get?_erase_of_ne t hm] at he

/-- What is found in a smaller tree is found in the larger one. -/
theorem Shrunk.resolve (h : t.Shrunk after) {pursuit : Pursuit} (hfile : pursuit ≠ .file)
    (hfound : after.resolve p pursuit = .ok (.found l e)) :
    t.resolve p pursuit = .ok (.found l e) := by
  obtain ⟨hp, hleads⟩ := (resolve_eq_found_iff hfile).1 hfound
  rw [h.cwd] at hleads
  exact (resolve_eq_found_iff hfile).2 ⟨hp, hleads.mono h.entries⟩

theorem isFile_of_find {q : Path} (h : t.find p = after.find q) : t.isFile p = after.isFile q := by
  rw [isFile, h, isFile]

theorem Shrunk.isFile (h : t.Shrunk after) (hfile : after.isFile p = true) :
    t.isFile p = true := by
  obtain ⟨l, e, hfind, -⟩ := isFile_eq_true hfile
  obtain ⟨hp, hleads⟩ := find_eq_ok_iff.1 hfind
  rw [h.cwd] at hleads
  have hsame : t.find p = .ok (l, e) := find_eq_ok_iff.2 ⟨hp, hleads.mono h.entries⟩
  rw [isFile_of_find (hsame.trans hfind.symm), hfile]

/-- Where a path leads to a file, there is an entry under its last name. -/
theorem entry_of_isFile (h : t.isFile p = true) : ∃ l e, t.resolve p .entry = .ok (.found l e) ∧
    e ≠ .dir ∧ t.get? l = some e ∧ p.isSlashed = false := by
  obtain ⟨l, e, hfind, hdir⟩ := isFile_eq_true h
  obtain ⟨hp, hleads⟩ := find_eq_ok_iff.1 hfind
  obtain ⟨k, entry, hentry, hkdir⟩ := hleads.entry hdir
  refine ⟨k, entry, (resolve_eq_found_iff (by simp)).2 ⟨hp, hentry⟩, hkdir, hentry.get?_eq hkdir, ?_⟩
  -- the path ends with a name, so there is no slash behind it
  obtain ⟨name, hlast⟩ := hleads.ends hdir
  by_contra hslashed
  have hfields : p.fields.getLast? = some [] := by
    have hbytes : p.bytes.getLast? = some Path.slash := by
      simpa [Path.isSlashed] using hslashed
    obtain ⟨front, hfront⟩ := List.getLast?_eq_some_iff.1 hbytes
    rw [Path.fields, hfront, Text.cut_concat_of_sep (by simp), List.getLast?_concat]
  rw [hops, List.getLast?_map, hfields] at hlast
  cases hlast

/-! ### Removing one file -/

theorem unslashed_of_not (h : p.isSlashed = false) : p.unslashed = p := by
  obtain ⟨bytes⟩ := p
  have hlast : bytes.reverse.head? ≠ some Path.slash := by
    rw [List.head?_reverse]
    simpa [Path.isSlashed] using h
  have hkept : bytes.reverse.dropWhile (· = Path.slash) = bytes.reverse := by
    cases hreverse : bytes.reverse with
    | nil => rfl
    | cons b rest =>
        rw [hreverse] at hlast
        exact List.dropWhile_cons_of_neg (by simpa using hlast)
  rw [Path.unslashed, hkept, List.reverse_reverse]

/-- A file that is there can be removed. -/
theorem removeFile_of_found (h : p.isSlashed = false)
    (hfound : t.resolve p .entry = .ok (.found l e)) (hdir : e ≠ .dir) :
    t.removeFile p = .ok (t.erase l) := by
  have hshort : ¬ (p.bytes.length > maxPath ∧ !p.bytes.contains 0) := by
    intro hlong
    rw [resolve, if_pos hlong] at hfound
    cases hfound
  unfold removeFile
  simp only [h, Bool.false_and, Bool.false_eq_true, if_false, if_neg hshort, unslashed_of_not h,
    hfound]

/-- What was removed is the entry that the path led to. -/
theorem found_of_removeFile (h : t.removeFile p = .ok after) :
    ∃ l e, t.resolve p .entry = .ok (.found l e) ∧ e ≠ .dir ∧ after = t.erase l := by
  unfold removeFile at h
  simp only at h
  split at h
  · cases h
  cases hslashed : p.isSlashed with
  | true =>
      simp only [hslashed, Bool.true_and, if_true] at h
      split at h
      · cases h
      · split at h <;> cases h
  | false =>
      simp only [hslashed, Bool.false_and, Bool.false_eq_true, if_false,
        unslashed_of_not hslashed] at h
      split at h
      · cases h
      · cases h
      · cases h
      · rename_i l entry hdir hfound
        cases h
        exact ⟨l, entry, hfound, hdir, rfl⟩

/-- A path whose entry was removed leads to no file. -/
theorem isFile_of_shrunk_erase (hfound : t.resolve p .entry = .ok (.found l e)) (hdir : e ≠ .dir)
    (h : (t.erase l).Shrunk after) : after.isFile p = false := by
  refine Bool.eq_false_iff.2 fun hfile => ?_
  obtain ⟨k, entry, hentry, -, hthere, -⟩ := entry_of_isFile hfile
  have hbefore := ((shrunk_erase t l).trans h).resolve (by simp) hentry
  rw [hfound] at hbefore
  cases hbefore
  have hgone := ((resolve_eq_found_iff (by simp)).1 hfound).2.get?_eq hdir
  have hstill := h.entries l e hthere
  rw [get?_erase_self t (ne_nil_of_get? hgone hdir)] at hstill
  cases hstill

end FileTree

/-! ### Cleaning up -/

namespace LogGuard

/-- What removing one path does to the tree: the entry it leads to goes, or there was no file. -/
theorem removeOne_tree (state : FileTree × List (Path × FileError)) (p : Path) :
    ((removeOne state p).1 = state.1 ∧ state.1.isFile p = false) ∨
      ∃ l e, state.1.resolve p .entry = .ok (.found l e) ∧ e ≠ .dir ∧
        (removeOne state p).1 = state.1.erase l := by
  cases hremove : state.1.removeFile p with
  | ok after =>
      obtain ⟨l, e, hfound, hdir, rfl⟩ := FileTree.found_of_removeFile hremove
      refine .inr ⟨l, e, hfound, hdir, ?_⟩
      rw [removeOne, hremove]
  | error cause =>
      refine .inl ⟨?_, ?_⟩
      · unfold removeOne
        rw [hremove]
        split
        · rename_i h
          cases h
        · rfl
        · rfl
      · refine Bool.eq_false_iff.2 fun hfile => ?_
        obtain ⟨l, e, hfound, hdir, -, hslashed⟩ := FileTree.entry_of_isFile hfile
        rw [FileTree.removeFile_of_found hslashed hfound hdir] at hremove
        cases hremove

theorem removeOne_shrunk (state : FileTree × List (Path × FileError)) (p : Path) :
    state.1.Shrunk (removeOne state p).1 := by
  rcases removeOne_tree state p with ⟨hsame, -⟩ | ⟨l, e, -, -, herased⟩
  · rw [hsame]
    exact .refl _
  · rw [herased]
    exact FileTree.shrunk_erase _ l

theorem removeAll_shrunk (paths : List Path) :
    ∀ state : FileTree × List (Path × FileError),
      state.1.Shrunk (paths.foldl removeOne state).1 := by
  induction paths with
  | nil => exact fun state => .refl _
  | cons p rest ih => exact fun state => (removeOne_shrunk state p).trans (ih _)

/-- Once a path was dealt with, it leads to no file, whatever is removed later. -/
theorem removeAll_gone (paths : List Path) :
    ∀ state : FileTree × List (Path × FileError), ∀ p ∈ paths,
      (paths.foldl removeOne state).1.isFile p = false := by
  induction paths with
  | nil => simp
  | cons q rest ih =>
      intro state p hp
      rcases List.mem_cons.1 hp with rfl | hp
      · have hlater := removeAll_shrunk rest (removeOne state p)
        rcases removeOne_tree state p with ⟨hsame, hnone⟩ | ⟨l, e, hfound, hdir, herased⟩
        · rw [hsame] at hlater
          refine Bool.eq_false_iff.2 fun hfile => ?_
          have hbefore := hlater.isFile hfile
          rw [hnone] at hbefore
          cases hbefore
        · rw [herased] at hlater
          exact FileTree.isFile_of_shrunk_erase hfound hdir hlater
      · exact ih _ p hp

theorem removeAll_frame {l : Location} (paths : List Path) :
    ∀ state : FileTree × List (Path × FileError),
      (∀ p ∈ paths, ∀ e, state.1.resolve p .entry ≠ .ok (.found l e)) →
        (paths.foldl removeOne state).1.get? l = state.1.get? l := by
  induction paths with
  | nil => exact fun _ _ => rfl
  | cons q rest ih =>
      intro state hnone
      have hrest : ∀ p ∈ rest, ∀ e,
          (removeOne state q).1.resolve p .entry ≠ .ok (.found l e) := by
        intro p hp e hfound
        have hbefore := (removeOne_shrunk state q).resolve (by simp) hfound
        exact hnone p (List.mem_cons_of_mem q hp) e hbefore
      rw [List.foldl_cons, ih _ hrest]
      rcases removeOne_tree state q with ⟨hsame, -⟩ | ⟨k, e, hfound, -, herased⟩
      · rw [hsame]
      · rw [herased]
        refine FileTree.get?_erase_of_ne _ ?_
        rintro rfl
        exact hnone q List.mem_cons_self e hfound

/-- **No path that was cleaned up leads to a file.** -/
theorem cleanup_gone (g : LogGuard) (t : FileTree) :
    ∀ p ∈ g.paths, (g.cleanup t).1.isFile p = false :=
  removeAll_gone g.paths (t, [])

/-- **What no path leads to stays.** -/
theorem cleanup_frame {g : LogGuard} {t : FileTree} {l : Location}
    (h : ∀ p ∈ g.paths, ∀ e, t.resolve p .entry ≠ .ok (.found l e)) :
    (g.cleanup t).1.get? l = t.get? l :=
  removeAll_frame g.paths (t, []) h

/-- No other spelling of a path that was cleaned up leads to a file, if the one that was used names
a file. -/
theorem cleanup_gone_of_same {g : LogGuard} {t : FileTree} {p q : Path} (hp : p ∈ g.paths)
    (hnames : p.NamesFile) (hsame : q.same p = true) : (g.cleanup t).1.isFile q = false := by
  refine Bool.eq_false_iff.2 fun hfile => ?_
  obtain ⟨l, e, hfind, hdir⟩ := FileTree.isFile_eq_true hfile
  have hother := FileTree.find_of_same hsame hnames hfind hdir
  rw [FileTree.isFile_of_find (hfind.trans hother.symm), g.cleanup_gone t p hp] at hfile
  cases hfile

end LogGuard

end CheckMatrix
