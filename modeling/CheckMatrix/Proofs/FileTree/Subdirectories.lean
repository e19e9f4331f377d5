/-
Sub-directories that are found, and the paths that name them.

A directory is listed under the path that leads to it, while each sub-directory is named by a new
path: the directory as it was written, without the slashes at its end, a slash, and the name.  The
two paths differ in slashes only and lead from the same place (`exists_stem`), and slashes in front
of a name make no difference to where it leads (`find_named_iff`).

So the listing is exact (`listSubdirs_exact`): the names are those of the visible sub-directories,
links to directories among them, in ascending order, and every path that is returned leads to the
very directory that was found.  The directory must have been written, though: the empty path is the
root of the project when it is listed, and nothing in front of the slash when its sub-directories are
named, which makes them absolute (`Sample.listSubdirs_of_empty`).
-/
import CheckMatrix.FileTree.Discovery
import CheckMatrix.Proofs.Fallible
import CheckMatrix.Proofs.FileTree.Removal
import CheckMatrix.Proofs.Text.Utf8
import Mathlib.Data.List.DropRight

namespace CheckMatrix

/-! ### Names -/

/-- A name as a file system allows it: it has some bytes, and neither a slash nor a zero. -/
structure Name.Proper (n : Name) : Prop where
  nonempty : n.bytes ≠ []
  slash : Path.slash ∉ n.bytes
  clean : 0 ∉ n.bytes

instance (n : Name) : Decidable n.Proper :=
  decidable_of_iff (n.bytes ≠ [] ∧ Path.slash ∉ n.bytes ∧ 0 ∉ n.bytes)
    ⟨fun ⟨hsome, hslash, hclean⟩ => ⟨hsome, hslash, hclean⟩,
      fun ⟨hsome, hslash, hclean⟩ => ⟨hsome, hslash, hclean⟩⟩

namespace Text

theorem encode_append (front back : List Char) :
    encode (front ++ back) = encode front ++ encode back :=
  List.flatMap_append

/-- A character of one byte is the first byte only of what begins with it, -/
theorem head?_encode_ne {text : List Char} {c : Char} {b : UInt8} (hb : b.toNat < 128)
    (hc : Char.ofNat b.toNat = c) (h : text.head? ≠ some c) : (encode text).head? ≠ some b := by
  cases text with
  | nil => exact nofun
  | cons d rest =>
      intro hhead
      rw [encode, List.flatMap_cons, List.head?_append_of_ne_nil _ (encodeChar_ne_nil d)] at hhead
      have hd := eq_of_mem_encodeChar hb (List.mem_of_head? hhead)
      exact h (by rw [List.head?_cons, hd, hc])

/-- and the last byte only of what ends with it. -/
theorem getLast?_encode_ne {text : List Char} {c : Char} {b : UInt8} (hb : b.toNat < 128)
    (hc : Char.ofNat b.toNat = c) (h : text.getLast? ≠ some c) : (encode text).getLast? ≠ some b := by
  obtain rfl | ⟨front, d, rfl⟩ := text.eq_nil_or_concat'
  · exact nofun
  · intro hlast
    have hlastChar : (encode [d]).getLast? = some b := by
      rw [encode_append] at hlast
      rwa [List.getLast?_append_of_ne_nil] at hlast
      rw [encode, List.flatMap_singleton]
      exact encodeChar_ne_nil d
    rw [encode, List.flatMap_singleton] at hlastChar
    have hd := eq_of_mem_encodeChar hb (List.mem_of_getLast? hlastChar)
    exact h (by rw [List.getLast?_concat, hd, hc])

end Text

namespace FileTree

open CheckMatrix.Path

/-! ### Slashes on the way -/

theorem hops_append_slash (front rest : List UInt8) :
    hops ⟨front ++ slash :: rest⟩ = hops ⟨front⟩ ++ hops ⟨rest⟩ := by
  rw [hops, fields, Text.cut_append_sep (by simp), List.map_append]
  rfl

theorem hops_append_slashes (front : List UInt8) (k : Nat) :
    hops ⟨front ++ List.replicate k slash⟩ = hops ⟨front⟩ ++ List.replicate k .slash := by
  induction k generalizing front with
  | zero => rw [List.replicate_zero, List.replicate_zero, List.append_nil, List.append_nil]
  | succ k ih =>
      have hrest := ih []
      rw [List.nil_append] at hrest
      rw [List.replicate_succ, hops_append_slash, hrest]
      rfl

/-- What is dropped at the end of a list are copies of one element. -/
theorem rdropWhile_eq {α : Type} [DecidableEq α] (c : α) (xs : List α) : ∃ k,
    xs = xs.rdropWhile (· = c) ++ List.replicate k c ∧
      (xs.rdropWhile (· = c)).getLast? ≠ some c := by
  induction xs using List.reverseRecOn with
  | nil => exact ⟨0, rfl, nofun⟩
  | append_singleton xs x ih =>
      by_cases hx : x = c
      · obtain ⟨k, hxs, hlast⟩ := ih
        rw [List.rdropWhile_concat_pos _ _ _ (by simp [hx])]
        refine ⟨k + 1, ?_, hlast⟩
        rw [List.replicate_succ', ← List.append_assoc, ← hxs, hx]
      · rw [List.rdropWhile_concat_neg _ _ _ (by simp [hx])]
        exact ⟨0, by simp, by simpa using hx⟩

/-- A path is what it is without the slashes at its end, and those slashes. -/
theorem exists_unslashed (p : Path) : ∃ k, p.bytes = p.unslashed.bytes ++ List.replicate k slash ∧
    p.isSlashed = decide (k ≠ 0) := by
  obtain ⟨bytes⟩ := p
  obtain ⟨k, hbytes, hlast⟩ := rdropWhile_eq slash bytes
  refine ⟨k, hbytes, ?_⟩
  cases k with
  | zero =>
      rw [List.replicate_zero, List.append_nil] at hbytes
      rw [← hbytes] at hlast
      simp [isSlashed, hlast]
  | succ k =>
      rw [isSlashed, hbytes, List.replicate_succ', ← List.append_assoc, List.getLast?_concat]
      simp

theorem hops_unslashed (p : Path) : ∃ k,
    hops p = hops p.unslashed ++ List.replicate k .slash ∧ p.isSlashed = decide (k ≠ 0) := by
  obtain ⟨k, hbytes, hslashed⟩ := exists_unslashed p
  have hp : p = ⟨p.unslashed.bytes ++ List.replicate k slash⟩ := congrArg Path.mk hbytes
  refine ⟨k, ?_, hslashed⟩
  rw [hp, hops_append_slashes, ← hp]

theorem origin_unslashed {p : Path} (hsome : p.unslashed.isEmpty = false) (dir : Location) :
    origin p dir = origin p.unslashed dir := by
  obtain ⟨k, hbytes, -⟩ := exists_unslashed p
  have habsolute : p.isAbsolute = p.unslashed.isAbsolute := by
    rw [isAbsolute, isAbsolute, hbytes, List.head?_append_of_ne_nil]
    simpa [isEmpty] using hsome
  rw [origin, origin, habsolute]

theorem contains_unslashed (p : Path) : p.bytes.contains 0 = p.unslashed.bytes.contains 0 := by
  obtain ⟨k, hbytes, -⟩ := exists_unslashed p
  have hslash : (0 : UInt8) ≠ slash := by decide
  rw [hbytes]
  simp [List.contains_eq_mem, List.mem_replicate, hslash]

/-- With slashes at its end a path can be followed as long as it is not too long. -/
theorem Followable.of_unslashed {p : Path} (hbare : Followable p.unslashed)
    (hshort : p.bytes.length ≤ maxPath) : Followable p := by
  obtain ⟨k, hbytes, -⟩ := exists_unslashed p
  refine ⟨?_, hshort, contains_unslashed p ▸ hbare.clean⟩
  have hsome := hbare.nonempty
  rw [isEmpty, List.isEmpty_eq_false_iff] at hsome ⊢
  rw [hbytes]
  exact List.append_ne_nil_of_left_ne_nil hsome _

/-- A name whose text is visible does not begin with a dot. -/
theorem head?_ofText_ne {name : String} (hdot : name.toList.head? ≠ some '.') :
    (Name.ofText name).bytes.head? ≠ some dot :=
  Text.head?_encode_ne (by decide) rfl hdot

/-- A name is one field. -/
theorem cut_name {n : Name} (hproper : n.Proper) : Text.cut (· = slash) n.bytes = [n.bytes] := by
  refine Text.cut_of_none fun b hb => ?_
  simpa using ne_of_mem_of_not_mem hb hproper.slash

/-- A name that does not begin with a dot is one hop. -/
theorem hops_name {n : Name} (hproper : n.Proper) (hdot : n.bytes.head? ≠ some dot) :
    hops ⟨n.bytes⟩ = [.name n] := by
  have hfield : n.bytes ≠ [dot] ∧ n.bytes ≠ [dot, dot] := by
    constructor
    · intro heq
      exact hdot (by rw [heq]; rfl)
    · intro heq
      exact hdot (by rw [heq]; rfl)
  rw [hops, fields, cut_name hproper, List.map_singleton, hop, if_neg hproper.nonempty,
    if_neg hfield.1, if_neg hfield.2]

variable {t : FileTree} {links : Nat} {o l d : Location} {hs : List Hop}

theorem leads_slashes (t : FileTree) (links : Nat) (l : Location) (k : Nat) :
    Leads t .goal links l (List.replicate k .slash) l .dir := by
  induction k with
  | zero => exact .done
  | succ k ih => exact .slash ih

/-- Slashes alone lead to the root directory. -/
theorem find_slashes {p : Path} {k : Nat} (hbytes : p.bytes = List.replicate (k + 1) slash)
    (hshort : p.bytes.length ≤ maxPath) : t.find p = .ok ([], .dir) := by
  have hhops : hops p = List.replicate (k + 2) .slash := by
    have hp : p = ⟨[] ++ List.replicate (k + 1) slash⟩ := congrArg Path.mk hbytes
    rw [hp, hops_append_slashes]
    rfl
  have horigin : origin p t.cwd = [] := by
    have habsolute : p.isAbsolute = true := by
      rw [isAbsolute, hbytes]
      rfl
    rw [origin, if_pos habsolute]
  refine find_eq_ok_iff.2 ⟨⟨?_, hshort, ?_⟩, ?_⟩
  · rw [isEmpty, hbytes]
    rfl
  · have hslash : (0 : UInt8) ≠ slash := by decide
    rw [hbytes]
    simp [List.contains_eq_mem, List.mem_replicate, hslash]
  · rw [horigin, hhops]
    exact leads_slashes t maxLinks [] (k + 2)

/-- Slashes behind a directory make no difference. -/
theorem leads_slashes_iff (k : Nat) : Leads t .goal links o (hs ++ List.replicate k .slash) l .dir ↔
    Leads t .goal links o hs l .dir := by
  constructor
  · intro h
    cases k with
    | zero => rwa [List.replicate_zero, List.append_nil] at h
    | succ k =>
        obtain ⟨used, left, m, hsum, hfront, hbehind⟩ := h.split (by simp [List.replicate_succ])
        obtain ⟨rfl, -⟩ := hbehind.unique (leads_slashes t 0 m (k + 1)) (by simp)
        exact hfront.le (by omega)
  · intro h
    have hboth := h.append (leads_slashes t 0 l k)
    rwa [Nat.add_zero] at hboth

/-! ### Sub-directories -/

/-- The path `base` leads to the directory at `l`, and a name leads from there to the directory at
`d`, through no more links in all than one path may have. -/
def Subdirectory (t : FileTree) (base : Path) (l : Location) (name : Name) (d : Location) : Prop :=
  ∃ used left, used + left = maxLinks ∧ Leads t .goal used (origin base t.cwd) (hops base) l .dir ∧
    Leads t .goal left l [.name name] d .dir

/-- A directory in a directory is a sub-directory. -/
theorem Subdirectory.of_dir {base : Path} {name : Name} (hbase : t.find base = .ok (l, .dir))
    (hshort : name.bytes.length ≤ maxName) (hdir : t.get? (l ++ [name]) = some .dir) :
    t.Subdirectory base l name (l ++ [name]) :=
  ⟨maxLinks, 0, rfl, (find_eq_ok_iff.1 hbase).2, .into hshort hdir .done⟩

/-- What leads to a directory with a name behind it leads there however many slashes are in
between. -/
theorem find_named_iff {stem : List UInt8} {k j : Nat} {n : Name} (hproper : n.Proper)
    (hdot : n.bytes.head? ≠ some dot)
    (hbase : t.find ⟨stem ++ List.replicate k slash⟩ = .ok (l, .dir)) :
    t.find ⟨stem ++ List.replicate j slash ++ slash :: n.bytes⟩ = .ok (d, .dir) ↔
      (stem ++ List.replicate j slash ++ slash :: n.bytes).length ≤ maxPath ∧
        t.Subdirectory ⟨stem ++ List.replicate k slash⟩ l n d := by
  obtain ⟨hfollow, hleads⟩ := find_eq_ok_iff.1 hbase
  have horigin : origin ⟨stem ++ List.replicate j slash ++ slash :: n.bytes⟩ t.cwd =
      origin ⟨stem ++ List.replicate k slash⟩ t.cwd := by
    have habsolute : isAbsolute ⟨stem ++ List.replicate j slash ++ slash :: n.bytes⟩ =
        isAbsolute ⟨stem ++ List.replicate k slash⟩ := by
      cases stem with
      | cons b rest => rfl
      | nil =>
          have hk : k ≠ 0 := by
            rintro rfl
            exact absurd hfollow.nonempty (by simp [isEmpty])
          obtain ⟨k, rfl⟩ := Nat.exists_eq_succ_of_ne_zero hk
          cases j <;> rfl
    rw [origin, origin, habsolute]
  have hhops : hops ⟨stem ++ List.replicate j slash ++ slash :: n.bytes⟩ =
      hops ⟨stem⟩ ++ List.replicate j .slash ++ [.name n] := by
    rw [hops_append_slash, hops_append_slashes, hops_name hproper hdot]
  have hclean : (stem ++ List.replicate j slash ++ slash :: n.bytes).contains 0 = false := by
    have hstem := hfollow.clean
    have hname := hproper.clean
    simp only [List.contains_eq_mem, List.mem_append, List.mem_cons, List.mem_replicate,
      decide_eq_false_iff_not] at hstem ⊢
    have hslash : (0 : UInt8) ≠ slash := by decide
    tauto
  rw [hops_append_slashes] at hleads
  rw [find_eq_ok_iff, horigin, hhops, Subdirectory, hops_append_slashes]
  constructor
  · rintro ⟨hnamed, hall⟩
    obtain ⟨used, left, m, hsum, hfront, hbehind⟩ := hall.split (by simp)
    have hstem := (leads_slashes_iff k).2 ((leads_slashes_iff j).1 hfront)
    obtain ⟨rfl, -⟩ := hstem.unique hleads (by simp)
    exact ⟨hnamed.short, used, left, hsum, hstem, hbehind⟩
  · rintro ⟨hshort, used, left, hsum, hfront, hbehind⟩
    have hstem := (leads_slashes_iff j).2 ((leads_slashes_iff k).1 hfront)
    exact ⟨⟨by simp [isEmpty], hshort, hclean⟩, hsum ▸ hstem.append hbehind⟩

/-! ### The two paths of a sub-directory -/

theorem encode_slashes (k : Nat) : Text.encode (List.replicate k '/') = List.replicate k slash := by
  induction k with
  | zero => rfl
  | succ k ih =>
      rw [List.replicate_succ, List.replicate_succ, ← ih]
      rfl

/-- The path of a sub-directory, byte by byte. -/
theorem ofText_named (front name : String) : Path.ofText (front ++ "/" ++ name) =
    ⟨Text.encode front.toList ++ slash :: (Name.ofText name).bytes⟩ := by
  rw [Path.ofText, String.toList_append, String.toList_append, Text.encode_append,
    Text.encode_append, List.append_assoc]
  rfl

/-- A directory as it is written, without the slashes at its end. -/
def trimmed (dir : String) : String :=
  String.ofList (dir.toList.rdropWhile (· = '/'))

/-- The slashes at the end are all that is missing. -/
theorem trimmed_spec (dir : String) : ∃ k,
    dir.toList = (trimmed dir).toList ++ List.replicate k '/' ∧
      (trimmed dir).toList.getLast? ≠ some '/' ∧
      (Path.ofText dir).unslashed.shown = trimmed dir := by
  obtain ⟨k, hdir, hlast⟩ := rdropWhile_eq '/' dir.toList
  rw [← String.toList_ofList (l := dir.toList.rdropWhile (· = '/')), ← trimmed] at hdir hlast
  have hfront : (Path.ofText (trimmed dir)).isSlashed = false := by
    have hends := Text.getLast?_encode_ne (b := slash) (by decide) rfl hlast
    simp only [isSlashed, Path.ofText, hends, decide_false]
  have hslashes : (Path.ofText dir).unslashed = (Path.ofText (trimmed dir)).unslashed := by
    rw [unslashed, unslashed, Path.ofText, Path.ofText, hdir, Text.encode_append, encode_slashes,
      List.reverse_append, List.reverse_replicate, List.dropWhile_append_of_pos]
    intro b hb
    rw [List.eq_of_mem_replicate hb]
    simp
  refine ⟨k, hdir, hlast, ?_⟩
  rw [hslashes, unslashed_of_not hfront, shown, Path.ofText, Text.decode_encode,
    String.ofList_toList]

/-- Joining to a root puts the same bytes in front of all paths that are absolute, and in front of
all that are not. -/
theorem exists_join (root : Path) (absolute : Bool) :
    ∃ before, ∀ p : Path, p.isAbsolute = absolute → root.join p = ⟨before ++ p.bytes⟩ := by
  cases absolute with
  | true => exact ⟨[], fun p hp => by rw [join, if_pos hp]; rfl⟩
  | false =>
      cases hends : root.isEmpty || root.isSlashed with
      | true =>
          refine ⟨root.bytes, fun p hp => ?_⟩
          rw [join, if_neg (by simp [hp]), if_pos hends]
      | false =>
          refine ⟨root.bytes ++ [slash], fun p hp => ?_⟩
          rw [join, if_neg (by simp [hp]), if_neg (by simp [hends]), List.append_assoc]
          rfl

/-- Joining a name puts a slash in front of it, unless there is one. -/
theorem join_name {front : List UInt8} {k : Nat}
    (hfront : k = 0 → front ≠ [] ∧ front.getLast? ≠ some slash) {name : String}
    (hname : (Name.ofText name).Proper) :
    join ⟨front ++ List.replicate k slash⟩ (.ofText name) =
      ⟨front ++ List.replicate (k - 1) slash ++ slash :: (Name.ofText name).bytes⟩ := by
  have hrelative : (Path.ofText name).isAbsolute = false := by
    rw [isAbsolute, decide_eq_false_iff_not]
    intro hhead
    exact hname.slash (List.mem_of_head? hhead)
  rw [join, if_neg (by simp [hrelative])]
  cases k with
  | zero =>
      have hunslashed : (isEmpty ⟨front ++ List.replicate 0 slash⟩ ||
          isSlashed ⟨front ++ List.replicate 0 slash⟩) = false := by
        rw [List.replicate_zero, List.append_nil, isEmpty, isSlashed, Bool.or_eq_false_iff,
          List.isEmpty_eq_false_iff, decide_eq_false_iff_not]
        exact hfront rfl
      rw [if_neg (by simp only [hunslashed]; decide)]
      simp [Path.ofText, Name.ofText]
  | succ k =>
      have hslashed : isSlashed ⟨front ++ List.replicate (k + 1) slash⟩ = true := by
        rw [isSlashed, List.replicate_succ', ← List.append_assoc, List.getLast?_concat]
        rfl
      rw [if_pos (by simp only [hslashed, Bool.or_true]), List.replicate_succ', Nat.add_sub_cancel]
      simp [Path.ofText, Name.ofText]

/-- **A sub-directory is listed and named by paths that differ in slashes only.** -/
theorem exists_stem (root : Path) {dir front : String} {k : Nat} (hdir : dir ≠ "")
    (hfront : dir.toList = front.toList ++ List.replicate k '/')
    (hlast : front.toList.getLast? ≠ some '/') :
    ∃ stem, root.join (.ofText dir) = ⟨stem ++ List.replicate k slash⟩ ∧
      ∀ name : String, (Name.ofText name).Proper →
        (root.join (.ofText dir)).join (.ofText name) =
          ⟨stem ++ List.replicate (k - 1) slash ++ slash :: (Name.ofText name).bytes⟩ ∧
        root.join (.ofText (front ++ "/" ++ name)) =
          ⟨stem ++ List.replicate 0 slash ++ slash :: (Name.ofText name).bytes⟩ := by
  have hbytes : (Path.ofText dir).bytes = Text.encode front.toList ++ List.replicate k slash := by
    rw [Path.ofText, hfront, Text.encode_append, encode_slashes]
  have hends := Text.getLast?_encode_ne (b := slash) (by decide) rfl hlast
  have hsome : k = 0 → Text.encode front.toList ≠ [] := by
    rintro rfl hnil
    refine hdir (String.toList_inj.1 ?_)
    rw [hfront, List.replicate_zero, List.append_nil]
    refine List.eq_nil_iff_forall_not_mem.2 fun c hc => ?_
    exact Text.encodeChar_ne_nil c (List.flatMap_eq_nil_iff.1 hnil c hc)
  have habsolute : ∀ name : String, (Path.ofText (front ++ "/" ++ name)).isAbsolute =
      (Path.ofText dir).isAbsolute := by
    intro name
    rw [isAbsolute, isAbsolute, hbytes, ofText_named]
    cases hchars : Text.encode front.toList with
    | cons b rest => rfl
    | nil =>
        obtain ⟨k, rfl⟩ := Nat.exists_eq_succ_of_ne_zero fun hk => hsome hk hchars
        rfl
  obtain ⟨before, hbefore⟩ := exists_join root (Path.ofText dir).isAbsolute
  have hbase : root.join (.ofText dir) =
      ⟨before ++ Text.encode front.toList ++ List.replicate k slash⟩ := by
    rw [hbefore _ rfl, hbytes, List.append_assoc]
  refine ⟨before ++ Text.encode front.toList, hbase, fun name hname => ⟨?_, ?_⟩⟩
  · rw [hbase]
    refine join_name (fun hk => ⟨List.append_ne_nil_of_right_ne_nil _ (hsome hk), ?_⟩) hname
    rwa [List.getLast?_append_of_ne_nil _ (hsome hk)]
  · rw [hbefore _ (habsolute name), ofText_named]
    simp

/-! ### What is listed -/

/-- A tree as a file system has it: one entry at a location, and under proper names. -/
structure Proper (t : FileTree) : Prop where
  apart : (t.entries.map Prod.fst).Nodup
  names : ∀ l ∈ t.entries.map Prod.fst, ∀ n ∈ l, n.Proper

theorem Proper.of_entry (h : t.Proper) {n : Name} (hentry : l ++ [n] ∈ t.entries.map Prod.fst) :
    n.Proper :=
  h.names _ hentry n (by simp)

/-- A tree stays proper when an entry is taken away, -/
theorem Proper.erase (h : t.Proper) (l : Location) : (t.erase l).Proper := by
  have hfewer : ((t.erase l).entries.map Prod.fst).Sublist (t.entries.map Prod.fst) :=
    List.filter_sublist.map Prod.fst
  exact ⟨hfewer.nodup h.apart, fun k hk => h.names k (hfewer.subset hk)⟩

/-- and when one is put in place under proper names. -/
theorem Proper.put (h : t.Proper) {l : Location} (hl : ∀ n ∈ l, n.Proper) (e : Entry) :
    (t.put l e).Proper := by
  have hrest := h.erase l
  refine ⟨List.nodup_cons.2 ⟨fun hmem => ?_, hrest.apart⟩, fun k hk => ?_⟩
  · obtain ⟨entry, hentry, heq⟩ := List.mem_map.1 hmem
    have hother := (List.mem_filter.1 hentry).2
    rw [decide_eq_true_iff] at hother
    exact hother heq
  · obtain rfl | hk := List.mem_cons.1 hk
    · exact hl
    · exact hrest.names k hk

/-- A location is told apart from the others in its directory by its name. -/
theorem textName?_eq_some_iff {k : Location} {name : String} :
    textName? k = some name ↔ k.getLast? = some (.ofText name) := by
  rw [textName?, Option.map_eq_some_iff]
  constructor
  · rintro ⟨n, hn, rfl⟩
    obtain ⟨hlast, htext⟩ := Option.filter_eq_some_iff.1 hn
    rw [hlast, Name.ofText, Name.shown, String.toList_ofList, Text.encode_decode htext]
  · intro hlast
    have htext : Text.isText (Text.encode name.toList) = true := by
      rw [Text.isText, Text.charsFrom_encode]
      simp
    refine ⟨.ofText name, Option.filter_eq_some_iff.2 ⟨hlast, htext⟩, ?_⟩
    rw [Name.shown, Name.ofText, Text.decode_encode, String.ofList_toList]

theorem mem_children_iff {k : Location} :
    k ∈ t.children l ↔ k ∈ t.entries.map Prod.fst ∧ k ≠ [] ∧ k.dropLast = l := by
  rw [children, List.mem_filter, decide_eq_true_iff]

theorem isDirectory_iff {p : Path} : t.isDirectory p = true ↔ ∃ d, t.find p = .ok (d, .dir) := by
  unfold isDirectory
  constructor
  · intro h
    split at h
    · rename_i d hfind
      exact ⟨d, hfind⟩
    · cases h
  · rintro ⟨d, hfind⟩
    rw [hfind]

theorem mem_subdirNames_iff {base : Path} {name : String} :
    name ∈ t.subdirNames base l ↔ l ++ [.ofText name] ∈ t.entries.map Prod.fst ∧
      t.isDirectory (base.join (.ofText name)) = true ∧ name.toList.head? ≠ some '.' := by
  rw [subdirNames, List.mem_mergeSort, List.mem_filter, List.mem_filterMap, Bool.and_eq_true,
    decide_eq_true_iff]
  refine and_congr_left fun _ => ?_
  constructor
  · rintro ⟨k, hk, hname⟩
    obtain ⟨hentry, -, hdir⟩ := mem_children_iff.1 hk
    obtain ⟨front, rfl⟩ := List.getLast?_eq_some_iff.1 (textName?_eq_some_iff.1 hname)
    rw [List.dropLast_concat] at hdir
    exact hdir ▸ hentry
  · intro hentry
    refine ⟨l ++ [.ofText name], mem_children_iff.2 ⟨hentry, by simp, by simp⟩, ?_⟩
    rw [textName?_eq_some_iff, List.getLast?_concat]

/-- Names are listed in ascending order, each once. -/
theorem pairwise_subdirNames (ht : t.Proper) (base : Path) (l : Location) :
    (t.subdirNames base l).Pairwise (· < ·) := by
  have hchildren : (t.children l).Nodup := ht.apart.filter _
  have hnodup : ((t.children l).filterMap textName?).Nodup := by
    refine List.pairwise_filterMap.2 (hchildren.imp_of_mem ?_)
    rintro k k' hk hk' hne name hname other hother rfl
    obtain ⟨front, rfl⟩ := List.getLast?_eq_some_iff.1 (textName?_eq_some_iff.1 hname)
    obtain ⟨front', rfl⟩ := List.getLast?_eq_some_iff.1 (textName?_eq_some_iff.1 hother)
    have hdir := (mem_children_iff.1 hk).2.2
    have hdir' := (mem_children_iff.1 hk').2.2
    rw [List.dropLast_concat] at hdir hdir'
    exact hne (by rw [hdir, hdir'])
  have hsorted : (t.subdirNames base l).Pairwise fun a b => decide (a ≤ b) = true := by
    refine List.pairwise_mergeSort (fun a b c hab hbc => ?_) (fun a b => ?_) _
    · rw [decide_eq_true_iff] at hab hbc ⊢
      exact String.le_trans hab hbc
    · simpa using String.le_total a b
  have hdistinct : (t.subdirNames base l).Nodup :=
    (List.mergeSort_perm _ _).nodup_iff.2 (hnodup.filter _)
  refine (hsorted.and hdistinct).imp ?_
  rintro a b ⟨hle, hne⟩
  exact String.not_le.1 fun hback => hne (String.le_antisymm (of_decide_eq_true hle) hback)

/-- A sub-directory is an entry of its directory. -/
theorem Subdirectory.mem {base : Path} {n : Name} (h : t.Subdirectory base l n d) :
    l ++ [n] ∈ t.entries.map Prod.fst := by
  obtain ⟨-, left, -, -, hname⟩ := h
  have hthere : ∃ e, t.get? (l ++ [n]) = some e := by
    cases hname with
    | into _ there _ => exact ⟨_, there⟩
    | stop _ there _ _ => exact ⟨_, there⟩
    | jump _ there _ _ _ => exact ⟨_, there⟩
  obtain ⟨e, he⟩ := hthere
  rw [get?, if_neg (by simp)] at he
  obtain ⟨before, after, hentries, -⟩ := List.lookup_eq_some_iff.1 he
  rw [hentries]
  simp

/-- **What is listed are the visible sub-directories**, if the path of a name is that of its
directory but for slashes. -/
theorem mem_subdirNames_iff_subdirectory (ht : t.Proper) {base : Path} {stem : List UInt8}
    {k j : Nat} (hbase : base = ⟨stem ++ List.replicate k slash⟩)
    (hjoin : ∀ name : String, (Name.ofText name).Proper → base.join (.ofText name) =
      ⟨stem ++ List.replicate j slash ++ slash :: (Name.ofText name).bytes⟩)
    (hfind : t.find base = .ok (l, .dir)) {name : String} :
    name ∈ t.subdirNames base l ↔ name.toList.head? ≠ some '.' ∧
      (base.join (.ofText name)).bytes.length ≤ maxPath ∧
      ∃ d, t.Subdirectory base l (.ofText name) d := by
  rw [mem_subdirNames_iff, isDirectory_iff]
  constructor
  · rintro ⟨hentry, ⟨d, hd⟩, hdot⟩
    have hproper := ht.of_entry hentry
    rw [hjoin name hproper] at hd ⊢
    rw [hbase] at hfind ⊢
    obtain ⟨hshort, hsub⟩ := (find_named_iff hproper (head?_ofText_ne hdot) hfind).1 hd
    exact ⟨hdot, hshort, d, hsub⟩
  · rintro ⟨hdot, hshort, d, hsub⟩
    have hproper := ht.of_entry hsub.mem
    refine ⟨hsub.mem, ⟨d, ?_⟩, hdot⟩
    rw [hjoin name hproper] at hshort ⊢
    rw [hbase] at hfind hsub
    exact (find_named_iff hproper (head?_ofText_ne hdot) hfind).2 ⟨hshort, hsub⟩

/-- A path that ends with a name of its own is not the root of the project. -/
theorem anchor_named {root : Path} {front name : String} (hname : (Name.ofText name).Proper)
    (hdot : (Name.ofText name).bytes.head? ≠ some dot) :
    root.anchor (.ofText (front ++ "/" ++ name)) = root.join (.ofText (front ++ "/" ++ name)) := by
  have hother : (Path.ofText (front ++ "/" ++ name)).same ⟨[dot]⟩ ≠ true := by
    intro hsame
    obtain ⟨-, hbusy⟩ := busyFields_of_same hsame
    have hnone : busyFields ⟨[dot]⟩ = [] := by decide
    have hfield : (Name.ofText name).bytes ∈
        (Path.ofText (front ++ "/" ++ name)).busyFields := by
      refine List.mem_filter.2 ⟨?_, ?_⟩
      · rw [ofText_named, fields, Text.cut_append_sep (by simp), cut_name hname]
        exact List.mem_append_right _ List.mem_cons_self
      · have hnodot : (Name.ofText name).bytes ≠ [dot] := by
          intro heq
          exact hdot (by rw [heq]; rfl)
        simp [isIdle, hname.nonempty, hnodot]
    rw [hbusy, hnone] at hfield
    cases hfield
  have hsome : (Path.ofText (front ++ "/" ++ name)).isEmpty = false := by
    rw [ofText_named]
    simp [isEmpty]
  rw [anchor, hsome, Bool.false_or, if_neg hother]

/-- **Directory discovery is exact, and its values resolve.**  What is returned for a directory that
is written is one path for each of its sub-directories with a visible name, if it is not too long to
be followed, in ascending order of the names: the directory as it is written, without the slashes at
its end, a slash and the name.  From the root, and as the working directory of a command, that path
leads to the sub-directory. -/
theorem listSubdirs_exact (ht : t.Proper) {root : Path} {dir : String} (hdir : dir ≠ "")
    (hfind : t.find (root.join (.ofText dir)) = .ok (l, .dir)) :
    ∃ names : List String,
      t.listSubdirs root dir = .ok (names.map fun name => trimmed dir ++ "/" ++ name) ∧
      names.Pairwise (· < ·) ∧
      (∀ name, name ∈ names ↔ name.toList.head? ≠ some '.' ∧
        ((root.join (.ofText dir)).join (.ofText name)).bytes.length ≤ maxPath ∧
        ∃ d, t.Subdirectory (root.join (.ofText dir)) l (.ofText name) d) ∧
      ∀ name ∈ names, ∀ d, t.Subdirectory (root.join (.ofText dir)) l (.ofText name) d →
        t.find (root.join (.ofText (trimmed dir ++ "/" ++ name))) = .ok (d, .dir) ∧
        t.find (root.anchor (.ofText (trimmed dir ++ "/" ++ name))) = .ok (d, .dir) := by
  obtain ⟨k, hfront, hlast, hshown⟩ := trimmed_spec dir
  obtain ⟨stem, hbase, hpaths⟩ := exists_stem root hdir hfront hlast
  have hmem : ∀ name, name ∈ t.subdirNames (root.join (.ofText dir)) l ↔
      name.toList.head? ≠ some '.' ∧
        ((root.join (.ofText dir)).join (.ofText name)).bytes.length ≤ maxPath ∧
        ∃ d, t.Subdirectory (root.join (.ofText dir)) l (.ofText name) d :=
    fun _ => mem_subdirNames_iff_subdirectory ht hbase (fun name hname => (hpaths name hname).1) hfind
  refine ⟨_, ?_, pairwise_subdirNames ht _ l, hmem, fun name hname d hsub => ?_⟩
  · simp only [listSubdirs, hfind, hshown]
  · obtain ⟨hdot, hshort, -⟩ := (hmem name).1 hname
    have hproper := ht.of_entry hsub.mem
    have hnodot := head?_ofText_ne hdot
    obtain ⟨hlisted, hvalue⟩ := hpaths name hproper
    have hfound : t.find (root.join (.ofText (trimmed dir ++ "/" ++ name))) = .ok (d, .dir) := by
      rw [hlisted] at hshort
      rw [hvalue]
      rw [hbase] at hfind hsub
      refine (find_named_iff hproper hnodot hfind).2 ⟨?_, hsub⟩
      simp only [List.length_append, List.length_replicate] at hshort ⊢
      omega
    exact ⟨hfound, (anchor_named hproper hnodot).symm ▸ hfound⟩

end FileTree

namespace Sample

/-- A project with a link among its examples, a hidden directory, a file, and a directory whose name
is no text. -/
def checkout : FileTree where
  entries := [([.ofText "work"], .dir), ([.ofText "work", .ofText "examples"], .dir),
    ([.ofText "work", .ofText "examples", .ofText "abi"], .dir),
    ([.ofText "work", .ofText "examples", .ofText "latest"], .link (.ofText "../examples/abi")),
    ([.ofText "work", .ofText "examples", .ofText ".cache"], .dir),
    ([.ofText "work", .ofText "examples", .ofText "README"], .file []),
    ([.ofText "work", .ofText "examples", ⟨[0xFF]⟩], .dir)]
  cwd := [.ofText "work"]

theorem checkout_proper : checkout.Proper :=
  ⟨by decide +kernel, by decide +kernel⟩

/-- The directory of the examples. -/
def examples : Location :=
  [.ofText "work", .ofText "examples"]

/-- Both examples are found, and the path of the link leads to what is behind it. -/
theorem listSubdirs_checkout :
    checkout.Proper ∧
      checkout.find ((Path.ofText ".").join (.ofText "examples//")) = .ok (examples, .dir) ∧
      ∃ names : List String, checkout.listSubdirs (.ofText ".") "examples//" =
          .ok (names.map fun name => "examples" ++ "/" ++ name) ∧
        names.Pairwise (· < ·) ∧ "abi" ∈ names ∧ "latest" ∈ names ∧ ".cache" ∉ names ∧
        checkout.find ((Path.ofText ".").anchor (.ofText ("examples" ++ "/" ++ "latest"))) =
          .ok (examples ++ [.ofText "abi"], .dir) := by
  have hfind : checkout.find ((Path.ofText ".").join (.ofText "examples//")) =
      .ok (examples, .dir) := eq_ok_of_toOption (by decide +kernel)
  have hwalk : ∀ {links : Nat} {o d : Location} {hs : List Hop},
      (checkout.walk .goal links o hs).toOption = some (.found d .dir) →
        FileTree.Leads checkout .goal links o hs d .dir :=
    fun h => (FileTree.walk_eq_found_iff (by simp)).1 (eq_ok_of_toOption h)
  have habi : checkout.Subdirectory ((Path.ofText ".").join (.ofText "examples//")) examples
      (.ofText "abi") (examples ++ [.ofText "abi"]) :=
    .of_dir hfind (by decide) (by decide +kernel)
  have hlatest : checkout.Subdirectory ((Path.ofText ".").join (.ofText "examples//")) examples
      (.ofText "latest") (examples ++ [.ofText "abi"]) :=
    ⟨0, 40, rfl, hwalk (by decide +kernel), hwalk (by decide +kernel)⟩
  obtain ⟨names, hlisted, hsorted, hmem, hfound⟩ :=
    FileTree.listSubdirs_exact checkout_proper (by decide) hfind
  have htrimmed : FileTree.trimmed "examples//" = "examples" := by decide +kernel
  rw [htrimmed] at hlisted hfound
  have hlink : "latest" ∈ names :=
    (hmem "latest").2 ⟨by decide +kernel, by decide +kernel, _, hlatest⟩
  refine ⟨checkout_proper, hfind, names, hlisted, hsorted,
    (hmem "abi").2 ⟨by decide +kernel, by decide +kernel, _, habi⟩, hlink, fun hhidden => ?_,
    (hfound "latest" hlink _ hlatest).2⟩
  exact ((hmem ".cache").1 hhidden).1 (by decide +kernel)

/-- The empty path is the project itself, but its sub-directories are looked for at the root of the
file system. -/
theorem listSubdirs_of_empty :
    checkout.Proper ∧
      checkout.find ((Path.ofText ".").join (.ofText "")) = .ok ([.ofText "work"], .dir) ∧
      checkout.listSubdirs (.ofText ".") "" = .ok ["/examples"] ∧
      checkout.find ((Path.ofText ".").join (.ofText "/examples")) = .error .notFound ∧
      checkout.find ((Path.ofText ".").join (.ofText "examples")) = .ok (examples, .dir) := by
  have hfind : checkout.find ((Path.ofText ".").join (.ofText "")) =
      .ok ([.ofText "work"], .dir) := eq_ok_of_toOption (by decide +kernel)
  refine ⟨checkout_proper, hfind, ?_, eq_error_of_refusal? (by decide +kernel),
    eq_ok_of_toOption (by decide +kernel)⟩
  have hnames : ((checkout.children [.ofText "work"]).filterMap FileTree.textName?).filter
      (fun name => checkout.isDirectory
          (((Path.ofText ".").join (.ofText "")).join (.ofText name)) &&
        decide (name.toList.head? ≠ some '.')) = ["examples"] := by decide +kernel
  have hprefix : (Path.ofText "").unslashed.shown = "" := by decide +kernel
  simp only [FileTree.listSubdirs, hfind, FileTree.subdirNames, hnames, List.mergeSort_singleton,
    List.map_cons, List.map_nil, hprefix]
  rfl

end Sample

end CheckMatrix
