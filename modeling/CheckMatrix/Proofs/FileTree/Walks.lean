/-
What is found at the end of a path.

`walk` follows a path by recursion on its hops, with a jump for every symbolic link, and may fail in
many ways.  `Leads` says only when it succeeds, one constructor for each kind of step, so that facts
about entries that are found go by induction on the way to them:

  * what is found is there (`Leads.get?_eq`), and the path to a file ends with its name
    (`Leads.ends`);
  * the way through a tree is open in any tree that has the same entries and more
    (`Leads.mono`);
  * where a file is found behind the links, an entry is found under the last name
    (`Leads.entry`);
  * where a path leads is settled, also by one that may go through more links (`Leads.unique`), and
    a path can be cut in two, the links being shared out (`Leads.append`, `Leads.split`).

Making a file is the third pursuit, in which a slash at the end is refused; it is left out here.
-/
import CheckMatrix.FileTree.Operations

namespace CheckMatrix.FileTree

/-- A path leads from a directory to an entry through at most so many links. -/
inductive Leads (t : FileTree) (pursuit : Pursuit) :
    (links : Nat) → Location → List Hop → Location → Entry → Prop
  | done {links : Nat} {dir : Location} : Leads t pursuit links dir [] dir .dir
  | here {links : Nat} {dir l : Location} {rest : List Hop} {e : Entry}
      (h : Leads t pursuit links dir rest l e) : Leads t pursuit links dir (.here :: rest) l e
  | slash {links : Nat} {dir l : Location} {rest : List Hop} {e : Entry}
      (h : Leads t pursuit links dir rest l e) : Leads t pursuit links dir (.slash :: rest) l e
  | up {links : Nat} {dir l : Location} {rest : List Hop} {e : Entry}
      (h : Leads t pursuit links dir.dropLast rest l e) : Leads t pursuit links dir (.up :: rest) l e
  | into {links : Nat} {dir l : Location} {name : Name} {rest : List Hop} {e : Entry}
      (short : name.bytes.length ≤ maxName) (there : t.get? (dir ++ [name]) = some .dir)
      (h : Leads t pursuit links (dir ++ [name]) rest l e) :
      Leads t pursuit links dir (.name name :: rest) l e
  /-- A file ends the path. -/
  | stop {links : Nat} {dir : Location} {name : Name} {e : Entry}
      (short : name.bytes.length ≤ maxName) (there : t.get? (dir ++ [name]) = some e)
      (hdir : e ≠ .dir) (hlink : ∀ target, e ≠ .link target) :
      Leads t pursuit links dir [.name name] (dir ++ [name]) e
  /-- A link at the end of the path is what an entry is. -/
  | keep {links : Nat} {dir : Location} {name : Name} {target : Path}
      (short : name.bytes.length ≤ maxName) (there : t.get? (dir ++ [name]) = some (.link target))
      (hentry : pursuit = .entry) :
      Leads t pursuit links dir [.name name] (dir ++ [name]) (.link target)
  | jump {links : Nat} {dir l : Location} {name : Name} {rest : List Hop} {target : Path} {e : Entry}
      (short : name.bytes.length ≤ maxName) (there : t.get? (dir ++ [name]) = some (.link target))
      (goesOn : ¬ (rest = [] ∧ pursuit = .entry)) (hne : target.isEmpty = false)
      (h : Leads t pursuit links (origin target dir) (hops target ++ rest) l e) :
      Leads t pursuit (links + 1) dir (.name name :: rest) l e

variable {t after : FileTree} {pursuit : Pursuit} {links : Nat} {dir l : Location} {hs : List Hop}
  {e : Entry}

/-! ### Walks -/

/-- Where a walk jumps when it meets a link. -/
def jumpOf (t : FileTree) (pursuit : Pursuit) :
    (links : Nat) → Location → List Hop → Except FileError Target
  | 0 => fun _ _ => .error .tooManyLinks
  | links + 1 => t.walk pursuit links

theorem walk_eq_follow (t : FileTree) (pursuit : Pursuit) (links : Nat) :
    t.walk pursuit links = t.follow pursuit (t.jumpOf pursuit links) := by
  cases links with
  | zero => rfl
  | succ links => rfl

theorem follow_leads (hfile : pursuit ≠ .file)
    (hjump : ∀ {m : Nat} {d k : Location} {js : List Hop} {entry : Entry}, links = m + 1 →
      t.walk pursuit m d js = .ok (.found k entry) → Leads t pursuit m d js k entry) :
    ∀ {hs : List Hop} {dir : Location},
      t.follow pursuit (t.jumpOf pursuit links) dir hs = .ok (.found l e) →
        Leads t pursuit links dir hs l e := by
  intro hs
  induction hs with
  | nil =>
      intro dir h
      cases h
      exact .done
  | cons hop rest ih =>
      intro dir h
      cases hop with
      | here => exact .here (ih h)
      | slash => exact .slash (ih h)
      | up => exact .up (ih h)
      | name name =>
          unfold follow at h
          simp only [hfile, decide_false, Bool.and_false, Bool.false_eq_true, if_false] at h
          split at h
          · cases h
          rename_i hlong
          have hshort : name.bytes.length ≤ maxName := Nat.le_of_not_lt hlong
          split at h
          · split at h
            · cases h
            · cases h
          · rename_i hthere
            exact .into hshort hthere (ih h)
          · rename_i target hthere
            split at h
            · rename_i hlast
              cases h
              obtain ⟨hnil, hentry⟩ := Bool.and_eq_true_iff.1 hlast
              rw [List.isEmpty_iff.1 hnil]
              exact .keep hshort hthere (of_decide_eq_true hentry)
            · rename_i hgoes
              split at h
              · cases h
              · rename_i hne
                cases links with
                | zero => cases h
                | succ m =>
                    refine .jump hshort hthere ?_ (Bool.eq_false_iff.2 hne) (hjump rfl h)
                    rintro ⟨rfl, hentry⟩
                    exact hgoes (by simp [hentry])
          · rename_i entry hdir hlink hthere
            split at h
            · rename_i hnil
              cases h
              rw [List.isEmpty_iff.1 hnil]
              exact .stop hshort hthere hdir hlink
            · cases h

theorem walk_leads (hfile : pursuit ≠ .file) : ∀ {links : Nat} {dir l : Location} {hs : List Hop}
    {e : Entry}, t.walk pursuit links dir hs = .ok (.found l e) →
      Leads t pursuit links dir hs l e := by
  intro links
  induction links with
  | zero =>
      intro dir l hs e h
      rw [walk_eq_follow] at h
      exact follow_leads hfile (fun hm => absurd hm (by simp)) h
  | succ links ih =>
      intro dir l hs e h
      rw [walk_eq_follow] at h
      refine follow_leads hfile (fun hm hwalk => ?_) h
      cases hm
      exact ih hwalk

theorem follow_into {jump : Location → List Hop → Except FileError Target} {name : Name}
    {rest : List Hop} (hfile : pursuit ≠ .file) (short : name.bytes.length ≤ maxName)
    (there : t.get? (dir ++ [name]) = some .dir) :
    t.follow pursuit jump dir (.name name :: rest) = t.follow pursuit jump (dir ++ [name]) rest := by
  rw [follow]
  simp only [hfile, decide_false, Bool.and_false, Bool.false_eq_true, if_false,
    if_neg (Nat.not_lt.2 short), there]

theorem follow_stop {jump : Location → List Hop → Except FileError Target} {name : Name}
    (short : name.bytes.length ≤ maxName) (there : t.get? (dir ++ [name]) = some e)
    (hdir : e ≠ .dir) (hlink : ∀ target, e ≠ .link target) :
    t.follow pursuit jump dir [.name name] = .ok (.found (dir ++ [name]) e) := by
  rw [follow]
  simp only [List.all_nil, List.isEmpty_nil, Bool.not_true, Bool.and_false, Bool.false_and,
    Bool.false_eq_true, if_false, if_neg (Nat.not_lt.2 short), there]
  cases e with
  | dir => exact absurd rfl hdir
  | link target => exact absurd rfl (hlink target)
  | file content => rfl
  | program name => rfl
  | faulty => rfl
  | null => rfl

/-- At a link a walk stops, if the link is what is asked for, or jumps. -/
theorem follow_link {jump : Location → List Hop → Except FileError Target} {name : Name}
    {rest : List Hop} {target : Path} (hfile : pursuit ≠ .file)
    (short : name.bytes.length ≤ maxName) (there : t.get? (dir ++ [name]) = some (.link target)) :
    t.follow pursuit jump dir (.name name :: rest) =
      if rest.isEmpty && pursuit = .entry then .ok (.found (dir ++ [name]) (.link target))
      else if target.isEmpty then .error .notFound
      else jump (origin target dir) (hops target ++ rest) := by
  rw [follow]
  simp only [hfile, decide_false, Bool.and_false, Bool.false_eq_true, if_false,
    if_neg (Nat.not_lt.2 short), there]

theorem Leads.walk (h : Leads t pursuit links dir hs l e) (hfile : pursuit ≠ .file) :
    t.walk pursuit links dir hs = .ok (.found l e) := by
  induction h with
  | done =>
      rw [walk_eq_follow]
      rfl
  | here _ ih =>
      rw [walk_eq_follow] at ih ⊢
      exact ih
  | slash _ ih =>
      rw [walk_eq_follow] at ih ⊢
      exact ih
  | up _ ih =>
      rw [walk_eq_follow] at ih ⊢
      exact ih
  | into short there _ ih =>
      rw [walk_eq_follow] at ih ⊢
      rw [follow_into hfile short there]
      exact ih
  | stop short there hdir hlink =>
      rw [walk_eq_follow]
      exact follow_stop short there hdir hlink
  | keep short there hentry =>
      subst hentry
      rw [walk_eq_follow, follow_link hfile short there]
      rfl
  | @jump _ _ _ _ rest _ _ short there goesOn hne _ ih =>
      have hgoes : ¬ (rest.isEmpty && decide (pursuit = .entry)) = true := by
        rw [Bool.and_eq_true, decide_eq_true_iff, List.isEmpty_iff]
        exact goesOn
      rw [walk_eq_follow, follow_link hfile short there, if_neg hgoes, if_neg (by simp [hne])]
      exact ih

/-- A walk finds an entry exactly when the path leads to it. -/
theorem walk_eq_found_iff (hfile : pursuit ≠ .file) :
    t.walk pursuit links dir hs = .ok (.found l e) ↔ Leads t pursuit links dir hs l e :=
  ⟨walk_leads hfile, fun h => h.walk hfile⟩

/-! ### Ways -/

/-- What a path leads to is there. -/
theorem Leads.get?_eq (h : Leads t pursuit links dir hs l e) (hdir : e ≠ .dir) :
    t.get? l = some e := by
  induction h with
  | done => exact absurd rfl hdir
  | here _ ih => exact ih hdir
  | slash _ ih => exact ih hdir
  | up _ ih => exact ih hdir
  | into _ _ _ ih => exact ih hdir
  | stop _ there _ _ => exact there
  | keep _ there _ => exact there
  | jump _ _ _ _ _ ih => exact ih hdir

/-- A path that leads to anything but a directory ends with a name. -/
theorem Leads.ends (h : Leads t pursuit links dir hs l e) (hdir : e ≠ .dir) :
    ∃ name, hs.getLast? = some (.name name) := by
  have hstep : ∀ {hop : Hop} {rest : List Hop}, (∃ name, rest.getLast? = some (.name name)) →
      ∃ name, (hop :: rest).getLast? = some (.name name) := by
    rintro hop rest ⟨name, hname⟩
    exact ⟨name, by rw [List.getLast?_cons, hname]; rfl⟩
  induction h with
  | done => exact absurd rfl hdir
  | here _ ih => exact hstep (ih hdir)
  | slash _ ih => exact hstep (ih hdir)
  | up _ ih => exact hstep (ih hdir)
  | into _ _ _ ih => exact hstep (ih hdir)
  | stop => exact ⟨_, rfl⟩
  | keep => exact ⟨_, rfl⟩
  | @jump _ _ _ name rest _ _ _ _ _ _ _ ih =>
      -- what stands behind the link is the end of the path that is followed instead
      cases rest with
      | nil => exact ⟨name, rfl⟩
      | cons hop rest =>
          obtain ⟨last, hlast⟩ := ih hdir
          rw [List.getLast?_append, List.getLast?_cons, Option.some_or] at hlast
          exact hstep ⟨last, by rw [List.getLast?_cons]; exact hlast⟩

/-- The way to an entry is open in every tree that has the entries on it. -/
theorem Leads.mono (h : Leads after pursuit links dir hs l e)
    (hmore : ∀ l e, after.get? l = some e → t.get? l = some e) :
    Leads t pursuit links dir hs l e := by
  induction h with
  | done => exact .done
  | here _ ih => exact .here ih
  | slash _ ih => exact .slash ih
  | up _ ih => exact .up ih
  | into short there _ ih => exact .into short (hmore _ _ there) ih
  | stop short there hdir hlink => exact .stop short (hmore _ _ there) hdir hlink
  | keep short there hentry => exact .keep short (hmore _ _ there) hentry
  | jump short there goesOn hne _ ih => exact .jump short (hmore _ _ there) goesOn hne ih

/-- A path to a file, whatever links it goes through, has an entry under its last name. -/
theorem Leads.entry (h : Leads t .goal links dir hs l e) (hdir : e ≠ .dir) :
    ∃ k entry, Leads t .entry links dir hs k entry ∧ entry ≠ .dir := by
  induction h with
  | done => exact absurd rfl hdir
  | here _ ih =>
      obtain ⟨k, entry, hk, hentry⟩ := ih hdir
      exact ⟨k, entry, .here hk, hentry⟩
  | slash _ ih =>
      obtain ⟨k, entry, hk, hentry⟩ := ih hdir
      exact ⟨k, entry, .slash hk, hentry⟩
  | up _ ih =>
      obtain ⟨k, entry, hk, hentry⟩ := ih hdir
      exact ⟨k, entry, .up hk, hentry⟩
  | into short there _ ih =>
      obtain ⟨k, entry, hk, hentry⟩ := ih hdir
      exact ⟨k, entry, .into short there hk, hentry⟩
  | stop short there hd hlink => exact ⟨_, _, .stop short there hd hlink, hd⟩
  | keep _ _ hentry => cases hentry
  | @jump _ _ _ _ rest target _ short there _ hne _ ih =>
      by_cases hnil : rest = []
      · subst hnil
        exact ⟨_, _, .keep short there rfl, by simp⟩
      · obtain ⟨k, entry, hk, hentry⟩ := ih hdir
        exact ⟨k, entry, .jump short there (fun hlast => hnil hlast.1) hne hk, hentry⟩

/-! ### Ways one behind the other -/

/-- More links do no harm. -/
theorem Leads.le {more : Nat} (h : Leads t pursuit links dir hs l e) (hmore : links ≤ more) :
    Leads t pursuit more dir hs l e := by
  induction h generalizing more with
  | done => exact .done
  | here _ ih => exact .here (ih hmore)
  | slash _ ih => exact .slash (ih hmore)
  | up _ ih => exact .up (ih hmore)
  | into short there _ ih => exact .into short there (ih hmore)
  | stop short there hdir hlink => exact .stop short there hdir hlink
  | keep short there hentry => exact .keep short there hentry
  | jump short there goesOn hne _ ih =>
      cases more with
      | zero => exact absurd hmore (Nat.not_succ_le_zero _)
      | succ more => exact .jump short there goesOn hne (ih (Nat.le_of_succ_le_succ hmore))

/-- A path leads to one entry. -/
theorem Leads.unique {other : Nat} {l' : Location} {e' : Entry}
    (h : Leads t pursuit links dir hs l e) (h' : Leads t pursuit other dir hs l' e')
    (hfile : pursuit ≠ .file) : l = l' ∧ e = e' := by
  have hfirst := (h.le (Nat.le_max_left links other)).walk hfile
  have hsecond := (h'.le (Nat.le_max_right links other)).walk hfile
  rw [hfirst] at hsecond
  cases hsecond
  exact ⟨rfl, rfl⟩

/-- From the directory that one path leads to, the next goes on. -/
theorem Leads.append {more : Nat} {m : Location} {back : List Hop}
    (h : Leads t .goal links dir hs m .dir) (hback : Leads t .goal more m back l e) :
    Leads t .goal (links + more) dir (hs ++ back) l e := by
  generalize hentry : Entry.dir = entry at h
  induction h with
  | done => exact hback.le (Nat.le_add_left _ _)
  | here _ ih => exact .here (ih hback hentry)
  | slash _ ih => exact .slash (ih hback hentry)
  | up _ ih => exact .up (ih hback hentry)
  | into short there _ ih => exact .into short there (ih hback hentry)
  | stop _ _ hdir _ => exact absurd hentry.symm hdir
  | keep _ _ hpursuit => cases hpursuit
  | jump short there _ hne _ ih =>
      have hbehind := ih hback hentry
      rw [List.append_assoc] at hbehind
      rw [Nat.succ_add]
      exact .jump short there (by simp) hne hbehind

/-- A path leads through the directory that its front leads to. -/
theorem Leads.split {front back : List Hop} (h : Leads t .goal links dir (front ++ back) l e)
    (hback : back ≠ []) : ∃ used left m, used + left = links ∧
      Leads t .goal used dir front m .dir ∧ Leads t .goal left m back l e := by
  have hwhole : ∀ {n : Nat} {d k : Location} {js : List Hop} {entry : Entry},
      Leads t .goal n d js k entry → [] ++ back = js → ∃ used left m, used + left = n ∧
        Leads t .goal used d [] m .dir ∧ Leads t .goal left m back k entry := by
    rintro n d k _ entry h rfl
    exact ⟨0, n, d, Nat.zero_add n, .done, h⟩
  generalize hall : front ++ back = hs at h
  induction h generalizing front with
  | done => exact absurd (List.append_eq_nil_iff.1 hall).2 hback
  | here h ih =>
      cases front with
      | nil => exact hwhole (.here h) hall
      | cons hop front =>
          obtain ⟨rfl, hrest⟩ := List.cons.inj hall
          obtain ⟨used, left, m, hsum, hfront, hbehind⟩ := ih hrest
          exact ⟨used, left, m, hsum, .here hfront, hbehind⟩
  | slash h ih =>
      cases front with
      | nil => exact hwhole (.slash h) hall
      | cons hop front =>
          obtain ⟨rfl, hrest⟩ := List.cons.inj hall
          obtain ⟨used, left, m, hsum, hfront, hbehind⟩ := ih hrest
          exact ⟨used, left, m, hsum, .slash hfront, hbehind⟩
  | up h ih =>
      cases front with
      | nil => exact hwhole (.up h) hall
      | cons hop front =>
          obtain ⟨rfl, hrest⟩ := List.cons.inj hall
          obtain ⟨used, left, m, hsum, hfront, hbehind⟩ := ih hrest
          exact ⟨used, left, m, hsum, .up hfront, hbehind⟩
  | into short there h ih =>
      cases front with
      | nil => exact hwhole (.into short there h) hall
      | cons hop front =>
          obtain ⟨rfl, hrest⟩ := List.cons.inj hall
          obtain ⟨used, left, m, hsum, hfront, hbehind⟩ := ih hrest
          exact ⟨used, left, m, hsum, .into short there hfront, hbehind⟩
  | stop short there hdir hlink =>
      cases front with
      | nil => exact hwhole (.stop short there hdir hlink) hall
      | cons hop front =>
          exact absurd (List.append_eq_nil_iff.1 (List.cons.inj hall).2).2 hback
  | keep _ _ hentry => cases hentry
  | @jump _ _ _ _ rest target _ short there goesOn hne h ih =>
      cases front with
      | nil => exact hwhole (.jump short there goesOn hne h) hall
      | cons hop front =>
          -- what the link stands for comes in front of the rest of the front
          obtain ⟨rfl, hrest⟩ := List.cons.inj hall
          have hlinked : hops target ++ front ++ back = hops target ++ rest := by
            rw [List.append_assoc]
            exact congrArg _ hrest
          obtain ⟨used, left, m, hsum, hfront, hbehind⟩ := ih hlinked
          exact ⟨used + 1, left, m, by omega, .jump short there (by simp) hne hfront, hbehind⟩

/-! ### Paths -/

/-- A path that can be followed at all: it is not empty, no longer than allowed, and a row of
names. -/
structure Followable (p : Path) : Prop where
  nonempty : p.isEmpty = false
  short : p.bytes.length ≤ maxPath
  clean : p.bytes.contains 0 = false

/-- A path leads to an entry when it can be followed and its hops lead there. -/
theorem resolve_eq_found_iff {p : Path} (hfile : pursuit ≠ .file) :
    t.resolve p pursuit = .ok (.found l e) ↔
      Followable p ∧ Leads t pursuit maxLinks (origin p t.cwd) (hops p) l e := by
  unfold resolve trace
  constructor
  · intro h
    split at h
    · cases h
    · rename_i hshort
      split at h
      · cases h
      · rename_i hclean
        split at h
        · cases h
        · rename_i hne
          have hnul := Bool.eq_false_iff.2 hclean
          refine ⟨⟨Bool.eq_false_iff.2 hne, ?_, hnul⟩, (walk_eq_found_iff hfile).1 h⟩
          exact Nat.le_of_not_lt fun hlong => hshort ⟨hlong, by rw [hnul]; rfl⟩
  · rintro ⟨hp, hleads⟩
    rw [if_neg fun hlong => absurd hlong.1 (Nat.not_lt.2 hp.short), if_neg (by rw [hp.clean]; simp),
      if_neg (by rw [hp.nonempty]; simp)]
    exact (walk_eq_found_iff hfile).2 hleads

/-- A path that can be followed is. -/
theorem Followable.resolve_eq {p : Path} (hp : Followable p) (t : FileTree) (pursuit : Pursuit) :
    t.resolve p pursuit = t.walk pursuit maxLinks (origin p t.cwd) (hops p) := by
  rw [resolve, if_neg fun hlong => absurd hlong.1 (Nat.not_lt.2 hp.short), trace,
    if_neg (by rw [hp.clean]; simp), if_neg (by rw [hp.nonempty]; simp)]

theorem resolve_of_nul {p : Path} (h : p.bytes.contains 0 = true) (t : FileTree) (pursuit : Pursuit) :
    t.resolve p pursuit = .error .nulInName := by
  rw [resolve, if_neg (by rw [h]; simp), trace, if_pos h]

/-- A path that cannot be followed at all is refused in every tree, for one of three causes. -/
theorem resolve_of_not_followable {p : Path} (hp : ¬ Followable p) : ∃ cause,
    (cause = .nameTooLong ∨ cause = .nulInName ∨ cause = .notFound) ∧
      ∀ t pursuit, resolve t p pursuit = .error cause := by
  by_cases hlong : p.bytes.length > maxPath ∧ !p.bytes.contains 0
  · exact ⟨.nameTooLong, .inl rfl, fun _ _ => by rw [resolve, if_pos hlong]⟩
  by_cases hnul : p.bytes.contains 0 = true
  · exact ⟨.nulInName, .inr (.inl rfl), fun t pursuit => resolve_of_nul hnul t pursuit⟩
  by_cases hempty : p.isEmpty = true
  · exact ⟨.notFound, .inr (.inr rfl), fun _ _ => by
      rw [resolve, if_neg hlong, trace, if_neg hnul, if_pos hempty]⟩
  · refine absurd ⟨Bool.eq_false_iff.2 hempty, ?_, Bool.eq_false_iff.2 hnul⟩ hp
    exact Nat.le_of_not_lt fun h => hlong ⟨h, by simpa using hnul⟩

theorem find_eq_ok_iff {p : Path} : t.find p = .ok (l, e) ↔
    Followable p ∧ Leads t .goal maxLinks (origin p t.cwd) (hops p) l e := by
  rw [← resolve_eq_found_iff (by simp), find]
  constructor
  · intro h
    split at h
    · cases h
    · cases h
    · rename_i hresolve
      cases h
      exact hresolve
  · intro h
    rw [h]

/-- What a path leads to is there. -/
theorem get?_of_find {p : Path} (h : t.find p = .ok (l, e)) (hdir : e ≠ .dir) :
    t.get? l = some e :=
  (find_eq_ok_iff.1 h).2.get?_eq hdir

/-- What is no directory is not the root of the tree. -/
theorem ne_nil_of_get? (h : t.get? l = some e) (hdir : e ≠ .dir) : l ≠ [] := by
  rintro rfl
  exact hdir (Option.some.inj h).symm

/-- A path leads to a regular file when what it leads to is one. -/
theorem isFile_eq_true {p : Path} (h : t.isFile p = true) :
    ∃ l e, t.find p = .ok (l, e) ∧ e ≠ .dir := by
  unfold isFile at h
  split at h
  · rename_i hfind
    exact ⟨_, _, hfind, by simp⟩
  · rename_i hfind
    exact ⟨_, _, hfind, by simp⟩
  · rename_i hfind
    exact ⟨_, _, hfind, by simp⟩
  · cases h

end CheckMatrix.FileTree
