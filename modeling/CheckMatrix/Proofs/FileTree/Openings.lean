/-
Entries that are put into a tree.

A new entry is put where a path was found to miss one.  From then on the path leads to the new entry
(`Misses.leads`), and every way through the tree stays open, since directories and links are never
replaced (`Leads.onto`).  So a directory that was made is the one its path leads to
(`put_of_makeDir`), and a file that was written is found, with its content, by the path that was
written to (`writeFile_eq_ok`), while every other path leads to what it led to (`IsEnd.find_put`).
-/
import CheckMatrix.Proofs.FileTree.Subdirectories

namespace CheckMatrix

namespace FileTree

open CheckMatrix.Path

/-! ### Larger trees -/

/-- A tree with the entries of another one, and some more directories. -/
structure Grown (t after : FileTree) : Prop where
  cwd : after.cwd = t.cwd
  entries : ∀ l e, t.get? l = some e → after.get? l = some e
  fresh : ∀ l e, t.get? l = none → after.get? l = some e → e = .dir

variable {t mid after : FileTree} {p q : Path} {l d k : Location} {e x : Entry} {n : Name}
  {pursuit : Pursuit} {links : Nat} {dir : Location} {hs : List Hop}

theorem Grown.refl (t : FileTree) : t.Grown t :=
  ⟨rfl, fun _ _ h => h, fun l e hnone h => by rw [hnone] at h; cases h⟩

theorem Grown.trans (h : t.Grown mid) (h' : mid.Grown after) : t.Grown after := by
  refine ⟨h'.cwd.trans h.cwd, fun l e he => h'.entries l e (h.entries l e he), fun l e hnone he => ?_⟩
  cases hmid : mid.get? l with
  | none => exact h'.fresh l e hmid he
  | some x =>
      obtain rfl := h.fresh l x hnone hmid
      rw [h'.entries l _ hmid] at he
      exact (Option.some.inj he).symm

theorem ne_nil_of_get?_none (h : t.get? l = none) : l ≠ [] := by
  rintro rfl
  cases h

theorem grown_put (h : t.get? l = none) : t.Grown (t.put l .dir) := by
  have hroot := ne_nil_of_get?_none h
  refine ⟨rfl, fun m e he => ?_, fun m e hnone he => ?_⟩
  · by_cases hm : m = l
    · rw [hm, h] at he
      cases he
    · rw [get?_put_of_ne t hm, he]
  · by_cases hm : m = l
    · rw [hm, get?_put_self t hroot] at he
      exact (Option.some.inj he).symm
    · rw [get?_put_of_ne t hm, hnone] at he
      cases he

theorem Grown.none (h : t.Grown after) (hnone : after.get? l = none) : t.get? l = none := by
  cases hbefore : t.get? l with
  | none => rfl
  | some e =>
      rw [h.entries l e hbefore] at hnone
      cases hnone

/-- What is found stays. -/
theorem Grown.find (h : t.Grown after) (hfind : t.find p = .ok (l, e)) :
    after.find p = .ok (l, e) := by
  obtain ⟨hp, hleads⟩ := find_eq_ok_iff.1 hfind
  refine find_eq_ok_iff.2 ⟨hp, ?_⟩
  rw [h.cwd]
  exact hleads.mono h.entries

/-- What is no directory has been there before. -/
theorem Grown.get?_of_ne_dir (h : t.Grown after) (hthere : after.get? l = some e) (hdir : e ≠ .dir) :
    t.get? l = some e := by
  cases hbefore : t.get? l with
  | none => exact absurd (h.fresh l e hbefore hthere) hdir
  | some x =>
      rw [h.entries l x hbefore] at hthere
      exact hthere

/-! ### Where something is missing -/

theorem leads_of_all_slash {rest : List Hop} (h : rest.all (· = .slash) = true) (links : Nat)
    (l : Location) : Leads t .goal links l rest l .dir := by
  have hrest : rest = List.replicate rest.length .slash :=
    List.eq_replicate_iff.2 ⟨rfl, fun hop hhop => of_decide_eq_true (List.all_eq_true.1 h hop hhop)⟩
  rw [hrest]
  exact leads_slashes t links l rest.length

/-- The hops come to a directory in which there is no entry of a name.  They lead to the entry in
every larger tree that has it. -/
structure Misses (t : FileTree) (pursuit : Pursuit) (links : Nat) (dir : Location) (hs : List Hop)
    (d : Location) (n : Name) : Prop where
  none : t.get? (d ++ [n]) = none
  leads : ∀ (after : FileTree) (x : Entry), (∀ l e, t.get? l = some e → after.get? l = some e) →
    after.get? (d ++ [n]) = some x → (∀ target, x ≠ .link target) → (x = .dir ∨ pursuit = .file) →
    Leads after .goal links dir hs (d ++ [n]) x

theorem follow_misses (hjump : ∀ {m : Nat} {o : Location} {js : List Hop}, links = m + 1 →
    t.walk pursuit m o js = .ok (.missing d n) → Misses t pursuit m o js d n) :
    ∀ {hs : List Hop} {dir : Location},
      t.follow pursuit (t.jumpOf pursuit links) dir hs = .ok (.missing d n) →
        Misses t pursuit links dir hs d n := by
  intro hs
  induction hs with
  | nil =>
      intro dir h
      cases h
  | cons hop rest ih =>
      intro dir h
      cases hop with
      | here =>
          exact ⟨(ih h).none, fun after x hmore there hlink hx =>
            .here ((ih h).leads after x hmore there hlink hx)⟩
      | slash =>
          exact ⟨(ih h).none, fun after x hmore there hlink hx =>
            .slash ((ih h).leads after x hmore there hlink hx)⟩
      | up =>
          exact ⟨(ih h).none, fun after x hmore there hlink hx =>
            .up ((ih h).leads after x hmore there hlink hx)⟩
      | name name =>
          unfold follow at h
          simp only at h
          split at h
          · cases h
          rename_i hdemand
          split at h
          · cases h
          rename_i hlong
          have hshort : name.bytes.length ≤ maxName := Nat.le_of_not_lt hlong
          split at h
          · rename_i hnone
            split at h
            · rename_i hlast
              cases h
              refine ⟨hnone, fun after x hmore there hlink hx => ?_⟩
              by_cases hdir : x = .dir
              · subst hdir
                exact .into hshort there (leads_of_all_slash hlast links _)
              · -- a file that is to be there has no slash behind it
                have hpursuit := hx.resolve_left hdir
                have hnil : rest = [] := by
                  by_contra hne
                  exact hdemand (by simp [hlast, hne, hpursuit])
                subst hnil
                exact .stop hshort there hdir hlink
            · cases h
          · rename_i hthere
            exact ⟨(ih h).none, fun after x hmore there hlink hx =>
              .into hshort (hmore _ _ hthere) ((ih h).leads after x hmore there hlink hx)⟩
          · rename_i target hthere
            split at h
            · cases h
            · split at h
              · cases h
              · rename_i hne
                cases links with
                | zero => cases h
                | succ m =>
                    have hbehind := hjump rfl h
                    exact ⟨hbehind.none, fun after x hmore there hlink hx =>
                      .jump hshort (hmore _ _ hthere) (by simp) (Bool.eq_false_iff.2 hne)
                        (hbehind.leads after x hmore there hlink hx)⟩
          · split at h
            · cases h
            · cases h

theorem walk_misses : ∀ {links : Nat} {dir : Location} {hs : List Hop},
    t.walk pursuit links dir hs = .ok (.missing d n) → Misses t pursuit links dir hs d n := by
  intro links
  induction links with
  | zero =>
      intro dir hs h
      rw [walk_eq_follow] at h
      exact follow_misses (fun hm => absurd hm (by simp)) h
  | succ links ih =>
      intro dir hs h
      rw [walk_eq_follow] at h
      refine follow_misses (fun hm hwalk => ?_) h
      cases hm
      exact ih hwalk

/-- What is found where a file is to be is what the path leads to. -/
theorem walk_file (t : FileTree) : ∀ {links : Nat} {dir : Location} {hs : List Hop} {r : Target},
    t.walk .file links dir hs = .ok r → t.walk .goal links dir hs = .ok r := by
  have hfollow : ∀ {links : Nat}, (∀ {m : Nat} {o : Location} {js : List Hop} {r : Target},
      links = m + 1 → t.walk .file m o js = .ok r → t.walk .goal m o js = .ok r) →
      ∀ {hs : List Hop} {dir : Location} {r : Target},
        t.follow .file (t.jumpOf .file links) dir hs = .ok r →
          t.follow .goal (t.jumpOf .goal links) dir hs = .ok r := by
    intro links hjump hs
    induction hs with
    | nil => exact fun h => h
    | cons hop rest ih =>
        intro dir r h
        cases hop with
        | here => exact ih h
        | slash => exact ih h
        | up => exact ih h
        | name name =>
            rw [follow] at h ⊢
            simp only [reduceCtorEq, decide_false, decide_true, Bool.and_false, Bool.and_true,
              Bool.false_eq_true, if_false] at h ⊢
            split at h
            · cases h
            by_cases hlong : name.bytes.length > maxName
            · rw [if_pos hlong] at h
              cases h
            rw [if_neg hlong] at h ⊢
            cases hthere : t.get? (dir ++ [name]) with
            | none => simpa only [hthere] using h
            | some e =>
                cases e with
                | dir =>
                    simp only [hthere] at h ⊢
                    exact ih h
                | link target =>
                    simp only [hthere] at h ⊢
                    split at h
                    · cases h
                    · cases links with
                      | zero => cases h
                      | succ m =>
                          rw [if_neg ‹_›]
                          exact hjump rfl h
                | file content => simpa only [hthere] using h
                | program name => simpa only [hthere] using h
                | faulty => simpa only [hthere] using h
                | null => simpa only [hthere] using h
  intro links
  induction links with
  | zero =>
      intro dir hs r h
      rw [walk_eq_follow] at h ⊢
      exact hfollow (fun hm => absurd hm (by simp)) h
  | succ links ih =>
      intro dir hs r h
      rw [walk_eq_follow] at h ⊢
      refine hfollow (fun hm hwalk => ?_) h
      cases hm
      exact ih hwalk

/-- What a path leads to behind the links is none. -/
theorem Leads.not_link (h : Leads t .goal links dir hs l e) : ∀ target, e ≠ .link target := by
  induction h with
  | done => simp
  | here _ ih => exact ih
  | slash _ ih => exact ih
  | up _ ih => exact ih
  | into _ _ _ ih => exact ih
  | stop _ _ _ hlink => exact hlink
  | keep _ _ hentry => cases hentry
  | jump _ _ _ _ _ ih => exact ih

/-- The way to an entry is open as long as there are the directories and links on it, whatever
stands at its end. -/
theorem Leads.onto (h : Leads t .goal links dir hs l e)
    (hdirs : ∀ l, t.get? l = some .dir → after.get? l = some .dir)
    (hlinks : ∀ l target, t.get? l = some (.link target) → after.get? l = some (.link target))
    (hend : e = .dir ∧ x = .dir ∨
      e ≠ .dir ∧ after.get? l = some x ∧ x ≠ .dir ∧ ∀ target, x ≠ .link target) :
    Leads after .goal links dir hs l x := by
  induction h with
  | done =>
      rcases hend with ⟨-, rfl⟩ | ⟨hdir, -⟩
      · exact .done
      · exact absurd rfl hdir
  | here _ ih => exact .here (ih hend)
  | slash _ ih => exact .slash (ih hend)
  | up _ ih => exact .up (ih hend)
  | into short there _ ih => exact .into short (hdirs _ there) (ih hend)
  | stop short there hdir hlink =>
      rcases hend with ⟨rfl, -⟩ | ⟨-, hthere, hxdir, hxlink⟩
      · exact absurd rfl hdir
      · exact .stop short hthere hxdir hxlink
  | keep _ _ hentry => cases hentry
  | jump short there goesOn hne _ ih => exact .jump short (hlinks _ _ there) goesOn hne (ih hend)

/-! ### Making one directory -/

theorem walk_of_resolve {r : Target} (h : t.resolve p pursuit = .ok r) :
    Followable p ∧ t.walk pursuit maxLinks (origin p t.cwd) (hops p) = .ok r := by
  by_cases hp : Followable p
  · rw [hp.resolve_eq] at h
    exact ⟨hp, h⟩
  · obtain ⟨cause, -, hcause⟩ := resolve_of_not_followable hp
    rw [hcause] at h
    cases h

/-- What making a directory did when it was done. -/
theorem put_of_makeDir (h : t.makeDir p = .ok after) : ∃ l, t.get? l = none ∧
    after = t.put l .dir ∧ after.find p = .ok (l, .dir) := by
  unfold makeDir at h
  simp only at h
  split at h
  · cases h
  rename_i hlong
  split at h
  · cases h
  split at h
  · cases h
  · cases h
  · rename_i d n hmissing
    cases h
    obtain ⟨hbare, hwalk⟩ := walk_of_resolve hmissing
    have hmisses := walk_misses hwalk
    have hleads := hmisses.leads (t.put (d ++ [n]) .dir) .dir (grown_put hmisses.none).entries
      (get?_put_self t (by simp) .dir) (by simp) (.inl rfl)
    have hshort : p.bytes.length ≤ maxPath := by
      by_contra hlength
      refine hlong ⟨Nat.lt_of_not_le hlength, ?_⟩
      rw [contains_unslashed, hbare.clean]
      rfl
    obtain ⟨k, hhops, -⟩ := hops_unslashed p
    refine ⟨d ++ [n], hmisses.none, rfl, find_eq_ok_iff.2 ⟨hbare.of_unslashed hshort, ?_⟩⟩
    rw [origin_unslashed hbare.nonempty, hhops]
    exact (leads_slashes_iff k).2 hleads

/-! ### Writing a file -/

variable {content : List UInt8}

/-- Nothing is at a location that is needed on the way to anything else. -/
def IsEnd (t : FileTree) (l : Location) : Prop :=
  ∀ e, t.get? l = some e → e ≠ .dir ∧ ∀ target, e ≠ .link target

/-- A file that is put at the end of the ways leaves them as they are. -/
theorem IsEnd.leads_put (h : IsEnd t l) {dir m : Location} {hs : List Hop}
    {e x : Entry} (hleads : Leads t .goal links dir hs m e)
    (hx : e = .dir ∧ x = .dir ∨
      e ≠ .dir ∧ (t.put l (.file content)).get? m = some x ∧ x ≠ .dir ∧ ∀ target, x ≠ .link target) :
    Leads (t.put l (.file content)) .goal links dir hs m x := by
  refine hleads.onto (fun k hk => ?_) (fun k target hk => ?_) hx
  · have hne : k ≠ l := by
      rintro rfl
      exact (h _ hk).1 rfl
    rw [get?_put_of_ne t hne, hk]
  · have hne : k ≠ l := by
      rintro rfl
      exact (h _ hk).2 target rfl
    rw [get?_put_of_ne t hne, hk]

/-- Every path that leads elsewhere still does. -/
theorem IsEnd.find_put (h : IsEnd t l) {q : Path} {m : Location} {e : Entry}
    (hfind : t.find q = .ok (m, e)) (hm : m ≠ l) :
    (t.put l (.file content)).find q = .ok (m, e) := by
  obtain ⟨hq, hleads⟩ := find_eq_ok_iff.1 hfind
  refine find_eq_ok_iff.2 ⟨hq, h.leads_put hleads ?_⟩
  by_cases hdir : e = .dir
  · exact .inl ⟨hdir, hdir⟩
  · refine .inr ⟨hdir, ?_, hdir, hleads.not_link⟩
    rw [get?_put_of_ne t hm, hleads.get?_eq hdir]

theorem find_of_resolve_file {p : Path} (h : t.resolve p .file = .ok (.found l e)) :
    t.find p = .ok (l, e) := by
  obtain ⟨hp, hwalk⟩ := walk_of_resolve h
  rw [find, hp.resolve_eq, walk_file t hwalk]

/-- A file that is put where a path leads, or misses a file. -/
structure PutWhere (t : FileTree) (p : Path) (content : List UInt8) (l : Location) : Prop where
  isEnd : IsEnd t l
  nonroot : l ≠ []
  found : (t.put l (.file content)).find p = .ok (l, .file content)
  before : t.get? l = none ∨ ∃ e, t.find p = .ok (l, e) ∧ e ≠ .dir

theorem PutWhere.of_missing {p : Path} {d : Location} {n : Name}
    (h : t.resolve p .file = .ok (.missing d n)) : PutWhere t p content (d ++ [n]) := by
  obtain ⟨hp, hwalk⟩ := walk_of_resolve h
  have hmisses := walk_misses hwalk
  have hmore : ∀ m e, t.get? m = some e → (t.put (d ++ [n]) (.file content)).get? m = some e := by
    intro m e he
    rw [get?_put_of_ne t (fun hm => ?_), he]
    rw [hm, hmisses.none] at he
    cases he
  refine ⟨fun e he => ?_, by simp, find_eq_ok_iff.2 ⟨hp, ?_⟩, .inl hmisses.none⟩
  · rw [hmisses.none] at he
    cases he
  · exact hmisses.leads _ _ hmore (get?_put_self t (by simp) _) (by simp) (.inr rfl)

theorem PutWhere.of_found {p : Path} (h : t.resolve p .file = .ok (.found l e)) (hdir : e ≠ .dir) :
    PutWhere t p content l := by
  have hfind := find_of_resolve_file h
  obtain ⟨hp, hleads⟩ := find_eq_ok_iff.1 hfind
  have hthere := hleads.get?_eq hdir
  have hroot := ne_nil_of_get? hthere hdir
  have hend : IsEnd t l := by
    intro x hx
    rw [hthere] at hx
    cases hx
    exact ⟨hdir, hleads.not_link⟩
  refine ⟨hend, hroot, find_eq_ok_iff.2 ⟨hp, hend.leads_put hleads ?_⟩, .inr ⟨e, hfind, hdir⟩⟩
  exact .inr ⟨hdir, get?_put_self t hroot _, by simp, by simp⟩

/-- **What writing a file did when it was done**: the file was put where the path leads, or the null
device took it. -/
theorem writeFile_eq_ok {p : Path} (h : t.writeFile p content = .ok after) :
    (∃ l, t.find p = .ok (l, .null) ∧ after = t) ∨
      ∃ l, after = t.put l (.file content) ∧ PutWhere t p content l := by
  unfold writeFile writable at h
  cases hresolve : t.resolve p .file with
  | error cause => simp [hresolve] at h
  | ok target =>
      cases target with
      | missing d n =>
          simp only [hresolve, Except.ok.injEq] at h
          exact .inr ⟨d ++ [n], h.symm, .of_missing hresolve⟩
      | found l e =>
          cases e with
          | file old =>
              simp only [hresolve, Except.ok.injEq] at h
              exact .inr ⟨l, h.symm, .of_found hresolve (by simp)⟩
          | faulty =>
              simp only [hresolve, Except.ok.injEq] at h
              exact .inr ⟨l, h.symm, .of_found hresolve (by simp)⟩
          | null =>
              simp only [hresolve, Except.ok.injEq] at h
              exact .inl ⟨l, find_of_resolve_file hresolve, h.symm⟩
          | dir => simp [hresolve] at h
          | link other => simp [hresolve] at h
          | program name => simp [hresolve] at h

end FileTree

end CheckMatrix
