/-
Directories that are made on the way to a file.

The directories above a path are made from the top.  However that ends, nothing is new but
directories, and each of them was missing on the way (`Making.made`).

Making them may also open a way that is not new at its end: behind `..`, a path through a new
directory comes back to what was there before.  Below a new directory itself there is nothing that
was there before (`under_fresh`), so a path without `..` that had to be made leads to a new
directory (`Making.fresh`), and a path below it to nothing old.
-/
import CheckMatrix.Proofs.FileTree.Openings

namespace CheckMatrix

/-! ### The path above -/

/-- Fields that are joined are cut apart again. -/
theorem Text.cut_intercalate {α : Type} {sep : α → Bool} {c : α} (hc : sep c = true) :
    ∀ {fields : List (List α)}, fields ≠ [] → (∀ field ∈ fields, ∀ x ∈ field, sep x = false) →
      cut sep ([c].intercalate fields) = fields := by
  intro fields
  induction fields with
  | nil => exact fun hne => absurd rfl hne
  | cons field rest ih =>
      intro _ hfields
      obtain ⟨hfield, hrest⟩ := List.forall_mem_cons.1 hfields
      cases rest with
      | nil =>
          rw [List.intercalate_singleton]
          exact cut_of_none hfield
      | cons next rest =>
          rw [List.intercalate_cons_cons, List.append_assoc, List.singleton_append,
            cut_append_sep hc, cut_of_none hfield, ih (by simp) hrest]
          rfl

namespace Path

/-- What is trimmed off some fields is idle, and what is left begins with a field that is not, unless
there is only one. -/
theorem trimIdle_spec (fields : List (List UInt8)) : ∃ idle, fields = idle ++ trimIdle fields ∧
    (∀ field ∈ idle, isIdle field = true) ∧ (fields ≠ [] → trimIdle fields ≠ []) ∧
    ∀ first rest, trimIdle fields = first :: rest → rest ≠ [] → isIdle first = false := by
  induction fields with
  | nil => exact ⟨[], rfl, by simp, by simp, fun _ _ h => nomatch h⟩
  | cons field rest ih =>
      cases rest with
      | nil =>
          refine ⟨[], rfl, by simp, by simp [trimIdle], fun first rest h hrest => ?_⟩
          cases h
          exact absurd rfl hrest
      | cons next rest =>
          rw [trimIdle]
          · by_cases hidle : isIdle field = true
            · obtain ⟨idle, hfields, hall, hne, hfirst⟩ := ih
              rw [if_pos hidle]
              refine ⟨field :: idle, congrArg (field :: ·) hfields,
                List.forall_mem_cons.2 ⟨hidle, hall⟩, fun _ => hne (by simp), hfirst⟩
            · rw [if_neg hidle]
              refine ⟨[], rfl, by simp, by simp, fun first rest h _ => ?_⟩
              cases h
              exact Bool.eq_false_iff.2 hidle
          · simp

/-- A path and the path above it. -/
structure Under (p q : Path) : Prop where
  fields : ∃ between field behind, p.fields = q.fields ++ between ++ field :: behind ∧
    (∀ f ∈ between ++ behind, isIdle f = true) ∧ isIdle field = false
  absolute : p.isAbsolute = q.isAbsolute

theorem isAbsolute_of_fields {p : Path} {first : List UInt8} {rest : List (List UInt8)}
    (h : p.fields = first :: rest) : p.isAbsolute = (decide (first = []) && !rest.isEmpty) := by
  obtain ⟨bytes⟩ := p
  cases bytes with
  | nil =>
      cases h
      rfl
  | cons b bytes =>
      by_cases hb : b = slash
      · rw [fields, Text.cut_cons_of_sep (by simp [hb])] at h
        obtain ⟨rfl, rfl⟩ := List.cons.inj h
        have hrest := Text.cut_ne_nil (· = slash) bytes
        simp [isAbsolute, hb, hrest]
      · obtain ⟨field, others, -, hcut⟩ : ∃ field others,
            Text.cut (· = slash) bytes = field :: others ∧
              Text.cut (· = slash) (b :: bytes) = (b :: field) :: others :=
          Text.cut_cons_of_not (by simpa using hb) bytes
        rw [fields, hcut] at h
        obtain ⟨rfl, rfl⟩ := List.cons.inj h
        simp [isAbsolute, hb]

/-- What is above a path is what it says up to its last part, unless it is the root directory or
nothing at all. -/
theorem under_of_parent? {p q : Path} (h : p.parent? = some q) (hsome : q.isEmpty = false)
    (hroot : q ≠ ⟨[slash]⟩) : Under p q := by
  obtain ⟨behind, hfields, hbehind, -, hfirst⟩ := trimIdle_spec p.fields.reverse
  unfold parent? at h
  split at h
  · cases h
  · split at h
    · cases h
    · cases h
      cases hsome
  · rename_i field rest hmore htrimmed
    have hrest : rest ≠ [] := hmore
    obtain ⟨between, hbetween, hidle, hne, -⟩ := trimIdle_spec rest
    split at h
    · cases h
      exact absurd rfl hroot
    · cases h
      generalize htrim : trimIdle rest = kept at *
      have hall : p.fields = kept.reverse ++ between.reverse ++ field :: behind.reverse := by
        rw [htrimmed, hbetween] at hfields
        rw [← List.reverse_reverse p.fields, hfields]
        simp
      have hq : fields ⟨[slash].intercalate kept.reverse⟩ = kept.reverse := by
        refine Text.cut_intercalate (by simp) (by simpa using hne hrest) fun f hf b hb => ?_
        have hmem : f ∈ p.fields := by
          rw [hall, List.append_assoc]
          exact List.mem_append_left _ hf
        exact Text.not_sep_of_mem_cut hmem b hb
      obtain ⟨first, others, hkept⟩ := List.exists_cons_of_ne_nil (List.reverse_ne_nil_iff.2 (hne hrest))
      refine ⟨⟨between.reverse, field, behind.reverse, ?_, ?_, ?_⟩, ?_⟩
      · rw [hq, hall]
      · simpa [or_imp, forall_and] using ⟨hidle, hbehind⟩
      · exact hfirst field rest htrimmed hrest
      · rw [hkept] at hall hq hsome ⊢
        rw [isAbsolute_of_fields hq, isAbsolute_of_fields hall]
        cases others with
        | cons next others => simp
        | nil =>
            have hfirst : first ≠ [] := by
              rintro rfl
              cases hsome
            simp [hfirst]

theorem dots_notMem_of_parent? {p q : Path} (h : p.parent? = some q)
    (hup : [dot, dot] ∉ p.fields) : [dot, dot] ∉ q.fields := by
  by_cases hempty : q.isEmpty = true
  · obtain ⟨bytes⟩ := q
    obtain rfl : bytes = [] := List.isEmpty_iff.1 hempty
    decide
  by_cases hroot : q = ⟨[slash]⟩
  · rw [hroot]
    decide
  obtain ⟨between, field, behind, hfields, -⟩ :=
    (under_of_parent? h (Bool.eq_false_iff.2 hempty) hroot).fields
  rw [hfields, List.append_assoc] at hup
  exact fun hmem => hup (List.mem_append_left _ hmem)

end Path

/-! ### Ways through new directories -/

namespace FileTree

open CheckMatrix.Path

variable {t after : FileTree} {p q : Path} {links : Nat} {l k : Location} {e : Entry}

/-- Every entry lies in a directory. -/
def Rooted (t : FileTree) : Prop :=
  ∀ l n e, t.get? (l ++ [n]) = some e → t.get? l = some .dir

theorem leads_idle {hs : List Hop} {idle : List (List UInt8)}
    (hidle : ∀ f ∈ idle, isIdle f = true) {dir : Location} :
    Leads t .goal links dir (idle.map hop ++ hs) l e ↔ Leads t .goal links dir hs l e := by
  induction idle with
  | nil => rfl
  | cons field rest ih =>
      obtain ⟨hfield, hrest⟩ := List.forall_mem_cons.1 hidle
      rw [← ih hrest, List.map_cons, List.cons_append]
      have hcases : hop field = .slash ∨ hop field = .here := by
        rcases Bool.or_eq_true_iff.1 hfield with hempty | hdot
        · exact .inl (if_pos (of_decide_eq_true hempty))
        · rw [of_decide_eq_true hdot]
          exact .inr rfl
      constructor
      · intro h
        rcases hcases with hhop | hhop <;> rw [hhop] at h <;> cases h <;> assumption
      · intro h
        rcases hcases with hhop | hhop <;> rw [hhop]
        · exact .slash h
        · exact .here h

/-- **Nothing that was there is below a directory that is new.** -/
theorem under_fresh (ht : t.Rooted) (hgrown : t.Grown after) (hparent : p.parent? = some q)
    (hup : [dot, dot] ∉ p.fields) (hq : after.find q = .ok (k, .dir)) (hk : t.get? k = none)
    (hp : after.find p = .ok (l, e)) : e = .dir ∧ t.get? l = none := by
  obtain ⟨hqf, hqleads⟩ := find_eq_ok_iff.1 hq
  obtain ⟨hpf, hpleads⟩ := find_eq_ok_iff.1 hp
  have hroot : q ≠ ⟨[slash]⟩ := by
    rintro rfl
    have hbytes : (⟨[slash]⟩ : Path).bytes = List.replicate (0 + 1) slash := rfl
    rw [find_slashes hbytes hqf.short] at hq
    cases hq
    exact ne_nil_of_get?_none hk rfl
  obtain ⟨⟨between, field, behind, hfields, hidle, hbusy⟩, habsolute⟩ :=
    under_of_parent? hparent hqf.nonempty hroot
  obtain ⟨hbetween, hbehind⟩ := List.forall_mem_append.1 hidle
  have hname : hop field = .name ⟨field⟩ := by
    have hdots : field ≠ [dot, dot] := by
      rintro rfl
      exact hup (by rw [hfields]; simp)
    obtain ⟨hempty, hdot⟩ := Bool.or_eq_false_iff.1 hbusy
    rw [hop, if_neg (of_decide_eq_false hempty), if_neg (of_decide_eq_false hdot), if_neg hdots]
  have hhops : hops p = hops q ++ (between.map hop ++ (.name ⟨field⟩ :: behind.map hop)) := by
    rw [hops, hfields, List.append_assoc, List.map_append, List.map_append, List.map_cons, hname]
    rfl
  have horigin : origin p after.cwd = origin q after.cwd := by
    rw [origin, origin, habsolute]
  rw [hhops, horigin] at hpleads
  obtain ⟨used, left, m, -, hfront, hrest⟩ := hpleads.split (by simp)
  obtain ⟨rfl, -⟩ := hfront.unique hqleads (by simp)
  rw [leads_idle hbetween] at hrest
  -- what is below the new directory is new as well, so it is a directory
  have hnew : ∀ x, after.get? (m ++ [⟨field⟩]) = some x → x = .dir ∧ t.get? (m ++ [⟨field⟩]) = none := by
    intro x hx
    cases hbefore : t.get? (m ++ [⟨field⟩]) with
    | none => exact ⟨hgrown.fresh _ x hbefore hx, rfl⟩
    | some y =>
        have hdir := ht m ⟨field⟩ y hbefore
        rw [hk] at hdir
        cases hdir
  generalize htail : behind.map hop = tail at hrest
  cases hrest with
  | into short there h =>
      have hend : Leads after .goal left (m ++ [⟨field⟩]) ([] : List Hop) l e := by
        rw [← leads_idle hbehind, List.append_nil, htail]
        exact h
      cases hend
      exact ⟨rfl, (hnew _ there).2⟩
  | stop short there hdir hlink => exact absurd (hnew _ there).1 hdir
  | keep _ _ hentry => cases hentry
  | jump short there goesOn hne h => cases (hnew _ there).1

/-! ### Making directories -/

/-- Making a directory and those above it, one constructor for each way it goes. -/
inductive Making (t : FileTree) : Path → FileTree → Except FileError Unit → Prop
  | nothing {p : Path} (h : p.isEmpty = true) : Making t p t (.ok ())
  | one {p : Path} {after : FileTree} (h : t.makeDir p = .ok after) : Making t p after (.ok ())
  | there {p : Path} (h : t.isDirectory p = true) : Making t p t (.ok ())
  | refused {p : Path} {cause : FileError} : Making t p t (.error cause)
  /-- Those above it could not be made. -/
  | refusedAbove {p q : Path} {above : FileTree} {cause : FileError} (hparent : p.parent? = some q)
      (habove : Making t q above (.error cause)) : Making t p above (.error cause)
  | behind {p q : Path} {above after : FileTree} (hparent : p.parent? = some q)
      (habove : Making t q above (.ok ())) (h : above.makeDir p = .ok after) :
      Making t p after (.ok ())
  /-- With those above it, it was there. -/
  | met {p q : Path} {above : FileTree} (hparent : p.parent? = some q)
      (habove : Making t q above (.ok ())) (h : above.isDirectory p = true) :
      Making t p above (.ok ())
  | refusedBehind {p q : Path} {above : FileTree} {cause : FileError}
      (hparent : p.parent? = some q) (habove : Making t q above (.ok ())) :
      Making t p above (.error cause)

/-- A directory that is there already, or cannot be made. -/
theorem Making.of_isDirectory (t : FileTree) (p : Path) (cause : FileError) :
    Making t p t (if t.isDirectory p then .ok () else .error cause) := by
  split
  · rename_i h
    exact .there h
  · exact .refused

theorem making (depth : Nat) (t : FileTree) (p : Path) :
    Making t p (makeDirsFrom depth t p).1 (makeDirsFrom depth t p).2 := by
  induction depth generalizing p with
  | zero =>
      unfold makeDirsFrom
      split
      · exact .nothing ‹_›
      split
      · exact .one ‹_›
      · exact .refused
      · exact .of_isDirectory t p _
  | succ depth ih =>
      unfold makeDirsFrom
      split
      · exact .nothing ‹_›
      split
      · exact .one ‹_›
      · cases hparent : p.parent? with
        | none => exact .refused
        | some q =>
            have hq := ih q
            cases habove : makeDirsFrom depth t q with
            | mk above result =>
                rw [habove] at hq
                cases result with
                | error cause =>
                    simp only [habove]
                    exact .refusedAbove hparent hq
                | ok _ =>
                    simp only [habove]
                    split
                    · exact .behind hparent hq ‹_›
                    · split
                      · exact .met hparent hq ‹_›
                      · exact .refusedBehind hparent hq
      · exact .of_isDirectory t p _

/-- A path is on the way to another one: the path itself, or one above it. -/
inductive OnTheWay : Path → Path → Prop
  | self {p : Path} : OnTheWay p p
  | above {p q r : Path} (hparent : p.parent? = some q) (h : OnTheWay q r) : OnTheWay p r

/-- What was made on the way to a path: some directories, each of which was missing. -/
structure MadeOnTheWay (t : FileTree) (p : Path) (after : FileTree) : Prop where
  grown : t.Grown after
  onTheWay : ∀ l, t.get? l = none → after.get? l ≠ none →
    ∃ q, OnTheWay p q ∧ after.find q = .ok (l, .dir)

theorem MadeOnTheWay.refl (t : FileTree) (p : Path) : t.MadeOnTheWay p t :=
  ⟨.refl t, fun _ hnone hsome => absurd hnone hsome⟩

theorem MadeOnTheWay.above {p q : Path} {after : FileTree} (h : t.MadeOnTheWay q after)
    (hparent : p.parent? = some q) : t.MadeOnTheWay p after := by
  refine ⟨h.grown, fun l hnone hsome => ?_⟩
  obtain ⟨r, hr, hfind⟩ := h.onTheWay l hnone hsome
  exact ⟨r, .above hparent hr, hfind⟩

/-- One more directory is made on the way. -/
theorem MadeOnTheWay.makeDir {mid after : FileTree} {p : Path} (h : t.MadeOnTheWay p mid)
    (hmade : mid.makeDir p = .ok after) : t.MadeOnTheWay p after := by
  obtain ⟨k, hnone, rfl, hfind⟩ := put_of_makeDir hmade
  have hgrown := grown_put hnone
  refine ⟨h.grown.trans hgrown, fun l hl hsome => ?_⟩
  by_cases hlk : l = k
  · subst hlk
    exact ⟨p, .self, hfind⟩
  · rw [get?_put_of_ne mid hlk] at hsome
    obtain ⟨q, hq, hqfind⟩ := h.onTheWay l hl hsome
    exact ⟨q, hq, hgrown.find hqfind⟩

/-- **However making directories ends, only directories are new, and only on the way.** -/
theorem Making.made {p : Path} {after : FileTree} {result : Except FileError Unit}
    (h : Making t p after result) : t.MadeOnTheWay p after := by
  induction h with
  | nothing h => exact .refl t _
  | one h => exact (MadeOnTheWay.refl t _).makeDir h
  | there h => exact .refl t _
  | refused => exact .refl t _
  | refusedAbove hparent _ ih => exact ih.above hparent
  | behind hparent _ h ih => exact (ih.above hparent).makeDir h
  | met hparent _ _ ih => exact ih.above hparent
  | refusedBehind hparent _ ih => exact ih.above hparent

/-- **A path without `..` that had to be made leads to what was not there.** -/
theorem Making.fresh (ht : t.Rooted) {p : Path} {after : FileTree}
    (h : Making t p after (.ok ())) (hup : [dot, dot] ∉ p.fields) :
    after = t ∨ ∃ k, after.find p = .ok (k, .dir) ∧ t.get? k = none := by
  generalize hresult : (Except.ok () : Except FileError Unit) = result at h
  induction h with
  | nothing h => exact .inl rfl
  | one h =>
      obtain ⟨k, hnone, -, hfind⟩ := put_of_makeDir h
      exact .inr ⟨k, hfind, hnone⟩
  | there h => exact .inl rfl
  | refused => cases hresult
  | refusedAbove => cases hresult
  | behind hparent habove h ih =>
      obtain ⟨k, hnone, -, hfind⟩ := put_of_makeDir h
      exact .inr ⟨k, hfind, habove.made.grown.none hnone⟩
  | met hparent habove h ih =>
      -- the directory is below one that was made, or nothing was made at all
      rcases ih (dots_notMem_of_parent? hparent hup) hresult with rfl | ⟨m, hm, hnone⟩
      · exact .inl rfl
      · obtain ⟨k, hk⟩ := isDirectory_iff.1 h
        exact .inr ⟨k, hk, (under_fresh ht habove.made.grown hparent hup hm hnone hk).2⟩
  | refusedBehind => cases hresult

end FileTree

end CheckMatrix
