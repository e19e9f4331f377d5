/-
Spellings of one path.

Paths are compared by their parts, which idle slashes and dots do not change, but they are followed
as they are written.  Two spellings of a path differ only in idle hops, and those make a difference
only at the end of a path and in its length.  Where both spellings name a file, ending with a name
and not too long, they lead to the same one (`find_of_same`).

The restriction is needed: `x` and `x/` are the same path, but the second one asks for a directory.
-/
import CheckMatrix.Proofs.FileTree.Walks
import Mathlib.Data.List.Basic

namespace CheckMatrix

/-! ### Fields -/

namespace Text

variable {α : Type} {sep : α → Bool}

theorem cut_cons_of_sep {c : α} (h : sep c = true) (rest : List α) :
    cut sep (c :: rest) = [] :: cut sep rest := by
  rw [cut, if_pos h]

theorem cut_cons_of_not {c : α} (h : sep c = false) (rest : List α) :
    ∃ field fields, cut sep rest = field :: fields ∧
      cut sep (c :: rest) = (c :: field) :: fields := by
  cases hrest : cut sep rest with
  | nil => exact absurd hrest (cut_ne_nil sep rest)
  | cons field fields =>
      refine ⟨field, fields, rfl, ?_⟩
      rw [cut, if_neg (Bool.eq_false_iff.1 h), hrest]

/-- Nothing gets lost in a cut but the separators. -/
theorem flatten_cut (text : List α) : (cut sep text).flatten = text.filter fun c => !sep c := by
  induction text with
  | nil => rfl
  | cons c rest ih =>
      cases h : sep c with
      | true =>
          rw [cut_cons_of_sep h, List.flatten_cons, ih, List.filter_cons_of_neg (by simp [h])]
          rfl
      | false =>
          obtain ⟨field, fields, hrest, hcut⟩ := cut_cons_of_not h rest
          rw [hrest] at ih
          rw [hcut, List.filter_cons_of_pos (by simp [h]), ← ih]
          rfl

theorem not_sep_of_mem_cut {text field : List α} (h : field ∈ cut sep text) :
    ∀ c ∈ field, sep c = false := by
  intro c hc
  have hmem : c ∈ (cut sep text).flatten := List.mem_flatten.2 ⟨field, h, hc⟩
  rw [flatten_cut, List.mem_filter] at hmem
  simpa using hmem.2

/-- A text is cut on either side of a separator. -/
theorem cut_append_sep {c : α} (hc : sep c = true) (front rest : List α) :
    cut sep (front ++ c :: rest) = cut sep front ++ cut sep rest := by
  induction front with
  | nil => exact cut_cons_of_sep hc rest
  | cons d front ih =>
      rw [List.cons_append]
      cases h : sep d with
      | true => rw [cut_cons_of_sep h, cut_cons_of_sep h, ih, List.cons_append]
      | false =>
          obtain ⟨field, fields, hfront, hcut⟩ := cut_cons_of_not h front
          obtain ⟨field', fields', hall, hcut'⟩ := cut_cons_of_not h (front ++ c :: rest)
          rw [ih, hfront, List.cons_append] at hall
          obtain ⟨rfl, rfl⟩ := List.cons.inj hall
          rw [hcut, hcut', List.cons_append]

/-- A separator at the end of a text leaves an empty field behind it. -/
theorem cut_concat_of_sep {c : α} (hc : sep c = true) (text : List α) :
    cut sep (text ++ [c]) = cut sep text ++ [[]] :=
  cut_append_sep hc text []

end Text

/-! ### What two spellings have in common -/

namespace Path

theorem same_refl (p : Path) : p.same p = true :=
  decide_eq_true rfl

theorem same_symm {p q : Path} (h : p.same q = true) : q.same p = true :=
  decide_eq_true (of_decide_eq_true h).symm

theorem same_trans {p q r : Path} (h : p.same q = true) (h' : q.same r = true) :
    p.same r = true :=
  decide_eq_true ((of_decide_eq_true h).trans (of_decide_eq_true h'))

/-- The fields of a path that name something. -/
def busyFields (p : Path) : List (List UInt8) :=
  p.fields.filter fun field => !isIdle field

theorem slash_notMem_of_mem_fields {p : Path} {field : List UInt8} (h : field ∈ p.fields) :
    slash ∉ field := by
  intro hmem
  have hsep := Text.not_sep_of_mem_cut h slash hmem
  simp at hsep

theorem ne_slash_of_mem_fields {p : Path} {field : List UInt8} (h : field ∈ p.fields) :
    field ≠ [slash] := by
  rintro rfl
  exact slash_notMem_of_mem_fields h (by simp)

/-- An absolute path starts with an empty field. -/
theorem fields_of_isAbsolute {p : Path} (h : p.isAbsolute = true) :
    ∃ rest, p.fields = [] :: rest := by
  obtain ⟨bytes⟩ := p
  cases bytes with
  | nil => cases h
  | cons b rest =>
      have hb : b = slash := by simpa [isAbsolute] using h
      exact ⟨Text.cut (· = slash) rest, Text.cut_cons_of_sep (by simp [hb]) rest⟩

/-- The parts of a path are the names behind its first field, and before them a slash or the first
field itself. -/
inductive Parted (p : Path) : List (List UInt8) → List (List UInt8) → Prop
  | absolute {rest : List (List UInt8)} (h : p.isAbsolute = true) :
      Parted p ([] :: rest) ([slash] :: rest.filter fun field => !isIdle field)
  | empty {rest : List (List UInt8)} (h : p.isAbsolute = false) :
      Parted p ([] :: rest) (rest.filter fun field => !isIdle field)
  | relative {first : List UInt8} {rest : List (List UInt8)} (h : p.isAbsolute = false)
      (hne : first ≠ []) :
      Parted p (first :: rest) (first :: rest.filter fun field => !isIdle field)

theorem parted (p : Path) : Parted p p.fields p.parts := by
  unfold parts
  cases hfields : p.fields with
  | nil => exact absurd hfields (Text.cut_ne_nil _ _)
  | cons first rest =>
      simp only
      cases habsolute : p.isAbsolute with
      | true =>
          obtain ⟨rest', hrest⟩ := fields_of_isAbsolute habsolute
          rw [hfields] at hrest
          obtain ⟨rfl, -⟩ := List.cons.inj hrest
          exact .absolute habsolute
      | false =>
          rw [if_neg (by simp)]
          by_cases hfirst : first = []
          · rw [if_pos hfirst, hfirst]
            exact .empty habsolute
          · rw [if_neg hfirst]
            exact .relative habsolute hfirst

section Parted

variable {p : Path} {fields parts : List (List UInt8)}

/-- Only an absolute path has the slash among its parts. -/
theorem Parted.isAbsolute_iff (h : Parted p fields parts) (hne : ∀ field ∈ fields, field ≠ [slash]) :
    p.isAbsolute = true ↔ [slash] ∈ parts := by
  have hnames : ∀ {rest : List (List UInt8)}, (∀ field ∈ rest, field ≠ [slash]) →
      [slash] ∉ rest.filter fun field => !isIdle field := by
    intro rest hrest hmem
    exact hrest _ (List.mem_filter.1 hmem).1 rfl
  cases h with
  | absolute h => exact ⟨fun _ => List.mem_cons_self, fun _ => h⟩
  | empty h =>
      rw [h]
      refine ⟨fun hfalse => absurd hfalse (by simp), fun hmem => ?_⟩
      exact absurd hmem (hnames fun field hf => hne field (List.mem_cons_of_mem _ hf))
  | @relative first _ h hfirst =>
      rw [h]
      refine ⟨fun hfalse => absurd hfalse (by simp), fun hmem => ?_⟩
      rcases List.mem_cons.1 hmem with heq | hmem
      · exact absurd heq.symm (hne first List.mem_cons_self)
      · exact absurd hmem (hnames fun field hf => hne field (List.mem_cons_of_mem _ hf))

/-- The names of a path are among its parts: what else is there is a slash or idle. -/
theorem Parted.busy_eq (h : Parted p fields parts) (hne : ∀ field ∈ fields, field ≠ [slash]) :
    fields.filter (fun field => !isIdle field) =
      parts.filter fun field => !isIdle field && field ≠ [slash] := by
  have hnames : ∀ {rest : List (List UInt8)}, (∀ field ∈ rest, field ≠ [slash]) →
      (rest.filter fun field => !isIdle field).filter
        (fun field => !isIdle field && field ≠ [slash]) =
        rest.filter fun field => !isIdle field := by
    intro rest hrest
    rw [List.filter_filter]
    refine List.filter_congr fun field hf => ?_
    simp [hrest field hf]
  cases h with
  | absolute h =>
      rw [List.filter_cons_of_neg (by simp [isIdle]), List.filter_cons_of_neg (by simp),
        hnames fun field hf => hne field (List.mem_cons_of_mem _ hf)]
  | empty h =>
      rw [List.filter_cons_of_neg (by simp [isIdle]),
        hnames fun field hf => hne field (List.mem_cons_of_mem _ hf)]
  | @relative first rest h hfirst =>
      have hrest := hnames fun field hf => hne field (List.mem_cons_of_mem first hf)
      have hslash := hne first List.mem_cons_self
      by_cases hidle : isIdle first = true
      · rw [List.filter_cons_of_neg (by simp [hidle]), List.filter_cons_of_neg (by simp [hidle]),
          hrest]
      · rw [List.filter_cons_of_pos (by simp [hidle]),
          List.filter_cons_of_pos (by simp [hidle, hslash]), hrest]

end Parted

/-- Two spellings of a path start alike and have the same busy fields. -/
theorem busyFields_of_same {p q : Path} (h : p.same q = true) :
    p.isAbsolute = q.isAbsolute ∧ p.busyFields = q.busyFields := by
  have hparts : p.parts = q.parts := of_decide_eq_true h
  have hp : ∀ field ∈ p.fields, field ≠ [slash] := fun _ => ne_slash_of_mem_fields
  have hq : ∀ field ∈ q.fields, field ≠ [slash] := fun _ => ne_slash_of_mem_fields
  constructor
  · rw [Bool.eq_iff_iff, p.parted.isAbsolute_iff hp, q.parted.isAbsolute_iff hq, hparts]
  · rw [busyFields, busyFields, p.parted.busy_eq hp, q.parted.busy_eq hq, hparts]

/-- A path whose last part is a name, short enough to be followed. -/
structure NamesFile (p : Path) : Prop where
  ends : ∃ field, p.fields.getLast? = some field ∧ isIdle field = false
  short : p.bytes.length ≤ FileTree.maxPath

theorem NamesFile.nonempty {p : Path} (h : p.NamesFile) : p.isEmpty = false := by
  obtain ⟨bytes⟩ := p
  cases bytes with
  | cons b rest => rfl
  | nil =>
      obtain ⟨field, hlast, hidle⟩ := h.ends
      cases hlast
      cases hidle

/-- No spelling of a path brings in a zero byte. -/
theorem mem_busyFields_iff {p : Path} {b : UInt8} (hslash : b ≠ slash) (hdot : b ≠ dot) :
    (∃ field ∈ p.busyFields, b ∈ field) ↔ b ∈ p.bytes := by
  have hflat : b ∈ p.fields.flatten ↔ b ∈ p.bytes := by
    rw [fields, Text.flatten_cut, List.mem_filter]
    simp [hslash]
  rw [← hflat, List.mem_flatten]
  constructor
  · rintro ⟨field, hfield, hb⟩
    exact ⟨field, (List.mem_filter.1 hfield).1, hb⟩
  · rintro ⟨field, hfield, hb⟩
    refine ⟨field, List.mem_filter.2 ⟨hfield, ?_⟩, hb⟩
    have hempty : field ≠ [] := List.ne_nil_of_mem hb
    have hnodot : field ≠ [dot] := by
      rintro rfl
      exact hdot (List.mem_singleton.1 hb)
    simp [isIdle, hempty, hnodot]

end Path

/-! ### Idle hops -/

/-- A hop that goes somewhere. -/
def Hop.busy (h : Hop) : Bool :=
  h ≠ .here && h ≠ .slash

namespace FileTree

/-- The last of some hops goes somewhere. -/
def EndsBusy (hs : List Hop) : Prop :=
  ∃ h, hs.getLast? = some h ∧ h.busy = true

theorem busy_hop (field : List UInt8) : (hop field).busy = !Path.isIdle field := by
  unfold hop Path.isIdle
  by_cases hempty : field = []
  · simp [hempty, Hop.busy]
  by_cases hdot : field = [Path.dot]
  · simp [hdot, Hop.busy]
  by_cases hup : field = [Path.dot, Path.dot]
  · simp [hup, Hop.busy]
  · simp [hempty, hdot, hup, Hop.busy]

theorem filter_hops (p : Path) : (hops p).filter Hop.busy = p.busyFields.map hop := by
  rw [hops, Path.busyFields, List.filter_map]
  congr 1
  exact List.filter_congr fun field _ => busy_hop field

theorem endsBusy_hops {p : Path} (h : p.NamesFile) : EndsBusy (hops p) := by
  obtain ⟨field, hlast, hidle⟩ := h.ends
  refine ⟨hop field, ?_, ?_⟩
  · rw [hops, List.getLast?_map, hlast]
    rfl
  · rw [busy_hop, hidle]
    rfl

theorem EndsBusy.tail {h : Hop} {rest : List Hop} (hs : EndsBusy (h :: rest)) (hne : rest ≠ []) :
    EndsBusy rest := by
  obtain ⟨last, hlast, hbusy⟩ := hs
  obtain ⟨next, rest, rfl⟩ := List.exists_cons_of_ne_nil hne
  exact ⟨last, hlast, hbusy⟩

theorem EndsBusy.append {rest : List Hop} (hs : EndsBusy rest) (front : List Hop) :
    EndsBusy (front ++ rest) := by
  obtain ⟨last, hlast, hbusy⟩ := hs
  exact ⟨last, by rw [List.getLast?_append, hlast, Option.some_or], hbusy⟩

theorem EndsBusy.filter {hs : List Hop} (h : EndsBusy hs) : EndsBusy (hs.filter Hop.busy) := by
  obtain ⟨last, hlast, hbusy⟩ := h
  obtain ⟨front, rfl⟩ := List.getLast?_eq_some_iff.1 hlast
  refine ⟨last, ?_, hbusy⟩
  rw [List.filter_append, List.filter_cons_of_pos hbusy, List.filter_nil, List.getLast?_concat]

theorem EndsBusy.not_all_slash {hs : List Hop} (h : EndsBusy hs) :
    hs.all (· = .slash) = false ∧ hs.isEmpty = false := by
  obtain ⟨last, hlast, hbusy⟩ := h
  have hmem := List.mem_of_getLast? hlast
  constructor
  · rw [List.all_eq_false]
    refine ⟨last, hmem, ?_⟩
    rw [Hop.busy, Bool.and_eq_true] at hbusy
    simpa using hbusy.2
  · rw [List.isEmpty_eq_false_iff]
    exact List.ne_nil_of_mem hmem

variable {t : FileTree} {pursuit : Pursuit}

/-- Idle hops that are not at the end do not matter. -/
theorem follow_filter {jump : Location → List Hop → Except FileError Target}
    (hjump : ∀ d js, EndsBusy js → jump d js = jump d (js.filter Hop.busy)) :
    ∀ {hs : List Hop} {dir : Location}, EndsBusy hs →
      t.follow pursuit jump dir hs = t.follow pursuit jump dir (hs.filter Hop.busy) := by
  intro hs
  induction hs with
  | nil =>
      rintro dir ⟨last, hlast, -⟩
      cases hlast
  | cons h rest ih =>
      intro dir hends
      by_cases hnil : rest = []
      · subst hnil
        obtain ⟨last, hlast, hbusy⟩ := hends
        obtain rfl : h = last := Option.some.inj hlast
        rw [List.filter_cons_of_pos hbusy]
        rfl
      have hrest := hends.tail hnil
      cases h with
      | here => exact ih hrest
      | slash => exact ih hrest
      | up => exact ih hrest
      | name name =>
          obtain ⟨hall, hempty⟩ := hrest.not_all_slash
          obtain ⟨hall', hempty'⟩ := hrest.filter.not_all_slash
          rw [List.filter_cons_of_pos rfl, follow, follow]
          simp only [hall, hempty, hall', hempty', Bool.false_and, Bool.false_eq_true, if_false,
            ih hrest]
          split
          · rfl
          split
          · rfl
          · rfl
          · -- both jumps come to the one without any idle hop
            rename_i target _
            have hfirst := hjump (origin target dir) _ (hrest.append (hops target))
            have hsecond := hjump (origin target dir) _ (hrest.filter.append (hops target))
            rw [List.filter_append, List.filter_filter] at hsecond
            simp only [Bool.and_self] at hsecond
            rw [hfirst, hsecond, List.filter_append]
          · rfl

theorem walk_filter : ∀ {links : Nat} {dir : Location} {hs : List Hop}, EndsBusy hs →
    t.walk pursuit links dir hs = t.walk pursuit links dir (hs.filter Hop.busy) := by
  intro links
  induction links with
  | zero =>
      intro dir hs hends
      exact follow_filter (fun _ _ _ => rfl) hends
  | succ links ih =>
      intro dir hs hends
      exact follow_filter (fun d js hjs => @ih d js hjs) hends

/-- **Two spellings of a path that name a file lead to the same one.** -/
theorem find_of_same {p q : Path} {l : Location} {e : Entry} (hsame : p.same q = true)
    (hq : q.NamesFile) (h : t.find p = .ok (l, e)) (hdir : e ≠ .dir) : t.find q = .ok (l, e) := by
  obtain ⟨hfollow, hleads⟩ := find_eq_ok_iff.1 h
  obtain ⟨habsolute, hbusy⟩ := Path.busyFields_of_same hsame
  obtain ⟨name, hends⟩ := hleads.ends hdir
  have hhops : (hops p).filter Hop.busy = (hops q).filter Hop.busy := by
    rw [filter_hops, filter_hops, hbusy]
  have horigin : origin p t.cwd = origin q t.cwd := by
    rw [origin, origin, habsolute]
  have hclean : q.bytes.contains 0 = false := by
    have hp := hfollow.clean
    rw [List.contains_eq_mem, decide_eq_false_iff_not, ← Path.mem_busyFields_iff (by decide)
      (by decide), hbusy, Path.mem_busyFields_iff (by decide) (by decide)] at hp
    rw [List.contains_eq_mem, decide_eq_false_iff_not]
    exact hp
  refine find_eq_ok_iff.2 ⟨⟨hq.nonempty, hq.short, hclean⟩, ?_⟩
  rw [← walk_eq_found_iff (by simp)] at hleads ⊢
  rw [walk_filter ⟨_, hends, rfl⟩, hhops, horigin, ← walk_filter (endsBusy_hops hq)] at hleads
  exact hleads

end FileTree

end CheckMatrix
