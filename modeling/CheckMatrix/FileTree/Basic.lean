/-
A tree of files as a value.

Every entry has a location, the names that lead to it from the root directory, and the tree is what
stands at each location.  `put` and `erase` change one location and no other, which is all that the
operations on files are made of.
-/
import CheckMatrix.Path

namespace CheckMatrix

/-- The name of an entry: bytes, mostly those of a text. -/
structure Name where
  bytes : List UInt8
  deriving DecidableEq, Repr

/-- The name that is written as a text. -/
def Name.ofText (text : String) : Name :=
  ⟨Text.encode text.toList⟩

/-- The name as it is shown. -/
def Name.shown (name : Name) : String :=
  String.ofList (Text.decode name.bytes)

/-- The names that lead from the root directory to an entry. -/
abbrev Location := List Name

/-- A location as an absolute path. -/
def Location.path (l : Location) : Path :=
  if l.isEmpty then ⟨[Path.slash]⟩ else ⟨l.flatMap fun name => Path.slash :: name.bytes⟩

/-- A location as it is shown. -/
def Location.shown (l : Location) : String :=
  (Location.path l).shown

/-- What stands at a location.  A program is a file that can be run and no more; a faulty file is
one that cannot be read; the null device takes everything and gives nothing. -/
inductive Entry
  | file (content : List UInt8)
  | dir
  | link (target : Path)
  | program (name : String)
  | faulty
  | null
  deriving DecidableEq, Repr

/-- A tree of files and the directory that relative paths start from. -/
structure FileTree where
  entries : List (Location × Entry)
  cwd : Location
  deriving Repr

namespace FileTree

/-- What stands at a location.  The root directory is always there. -/
def get? (t : FileTree) (l : Location) : Option Entry :=
  if l = [] then some .dir else t.entries.lookup l

/-- The tree with nothing at a location. -/
def erase (t : FileTree) (l : Location) : FileTree :=
  { t with entries := t.entries.filter fun e => e.1 ≠ l }

/-- The tree with an entry at a location. -/
def put (t : FileTree) (l : Location) (e : Entry) : FileTree :=
  { t with entries := (l, e) :: (t.erase l).entries }

/-- The locations of the entries in a directory. -/
def children (t : FileTree) (l : Location) : List Location :=
  (t.entries.map Prod.fst).filter fun child => child ≠ [] ∧ child.dropLast = l

/-- The tree as seen from another directory. -/
def within (t : FileTree) (l : Location) : FileTree :=
  { t with cwd := l }

/-! ### One location changes -/

private theorem lookup_filter_ne {l m : Location} (h : m ≠ l) (entries : List (Location × Entry)) :
    (entries.filter fun e => e.1 ≠ l).lookup m = entries.lookup m := by
  induction entries with
  | nil => rfl
  | cons first rest ih =>
    obtain ⟨k, e⟩ := first
    by_cases hk : k = l
    · have hm : (m == k) = false := by simpa [hk] using h
      simp only [hk, ne_eq, not_true_eq_false, decide_false, Bool.false_eq_true,
        not_false_eq_true, List.filter_cons_of_neg]
      rw [List.lookup_cons, ← hk, hm]
      simpa [hk] using ih
    · rw [List.filter_cons_of_pos (by simpa using hk), List.lookup_cons, List.lookup_cons, ih]

private theorem lookup_filter_self {l : Location} (entries : List (Location × Entry)) :
    (entries.filter fun e => e.1 ≠ l).lookup l = none := by
  induction entries with
  | nil => rfl
  | cons first rest ih =>
    obtain ⟨k, e⟩ := first
    by_cases hk : k = l
    · rw [List.filter_cons_of_neg (by simpa using hk)]
      exact ih
    · have hl : (l == k) = false := by simpa using fun h => hk h.symm
      rw [List.filter_cons_of_pos (by simpa using hk), List.lookup_cons, hl]
      exact ih

theorem get?_erase_self (t : FileTree) {l : Location} (h : l ≠ []) :
    (t.erase l).get? l = none := by
  simp only [get?, h, if_false, erase]
  exact lookup_filter_self t.entries

theorem get?_erase_of_ne (t : FileTree) {l m : Location} (h : m ≠ l) :
    (t.erase l).get? m = t.get? m := by
  by_cases hm : m = []
  · simp [get?, hm]
  · simp only [get?, hm, if_false, erase]
    exact lookup_filter_ne h t.entries

theorem get?_put_self (t : FileTree) {l : Location} (h : l ≠ []) (e : Entry) :
    (t.put l e).get? l = some e := by
  simp [get?, h, put]

theorem get?_put_of_ne (t : FileTree) {l m : Location} (h : m ≠ l) (e : Entry) :
    (t.put l e).get? m = t.get? m := by
  by_cases hm : m = []
  · simp [get?, hm]
  · have hml : (m == l) = false := by simpa using h
    simp only [get?, hm, if_false, put, erase, List.lookup_cons, hml]
    exact lookup_filter_ne h t.entries

end FileTree

end CheckMatrix
