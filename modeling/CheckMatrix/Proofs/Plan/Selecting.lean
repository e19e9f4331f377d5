/-
Selecting groups.

Two flags and a list of names come to a set of names that are wanted (`Wanted`).  When nothing is
said it is the default names of the configuration, and when there are none of these either, every
group is wanted.  The groups that are found are the ones with a wanted name, told by their places in
the configuration since names may repeat there (`Picked`).  So neither the order of what is said nor
its repetitions show, except in which name is reported when several are unknown (`FirstUnknown`).

What is looked up is one list of names (`Selection.wanted?`), or none.  The statements about such a
list (`Selection.resolve_names_eq_ok_iff`, `Selection.resolve_names_eq_error_iff`) hold of any
selection; what flags and names have to do with the list is told apart by whether anything is said.
-/
import CheckMatrix.Selection
import CheckMatrix.Proofs.Fallible
import Mathlib.Data.List.Sort

namespace CheckMatrix

/-! ### Elements picked from a list -/

section

variable {α : Type} {p : α → Prop} {xs ys zs : List α}

/-- The elements of a list that have a property: each place that has one counts once, and the places
are in order. -/
def Picked (p : α → Prop) (xs ys : List α) : Prop :=
  ∃ places : List Nat, places.Pairwise (· < ·) ∧
    (∀ i, i ∈ places ↔ ∃ x, xs[i]? = some x ∧ p x) ∧ places.map (xs[·]?) = ys.map some

/-- What is picked is settled by the places that count. -/
theorem Picked.unique (h : Picked p xs ys) (h' : Picked p xs zs) : ys = zs := by
  obtain ⟨places, hordered, hplaces, hys⟩ := h
  obtain ⟨places', hordered', hplaces', hzs⟩ := h'
  -- in increasing order there is only one list of the places that count
  have hsame : places = places' :=
    hordered.eq_of_mem_iff hordered' fun i => (hplaces i).trans (hplaces' i).symm
  rw [hsame, hzs] at hys
  exact (List.map_inj_right fun _ _ => Option.some.inj).1 hys.symm

theorem picked_filter {test : α → Bool} (h : ∀ x ∈ xs, test x = true ↔ p x) :
    Picked p xs (xs.filter test) := by
  refine ⟨(xs.zipIdx.filter (test ∘ Prod.fst)).map Prod.snd, ?_, fun i => ?_, ?_⟩
  · have hall : (xs.zipIdx.map Prod.snd).Pairwise (· < ·) := by
      rw [List.zipIdx_map_snd]
      exact List.pairwise_lt_range'
    exact hall.sublist (List.filter_sublist.map Prod.snd)
  · simp only [List.mem_map, List.mem_filter, List.mem_zipIdx_iff_getElem?, Function.comp_apply]
    constructor
    · rintro ⟨⟨x, j⟩, ⟨hx, htest⟩, rfl⟩
      exact ⟨x, hx, (h x (List.mem_of_getElem? hx)).1 htest⟩
    · rintro ⟨x, hx, hp⟩
      exact ⟨(x, i), ⟨hx, (h x (List.mem_of_getElem? hx)).2 hp⟩, rfl⟩
  · have hthere : ∀ e ∈ xs.zipIdx.filter (test ∘ Prod.fst), xs[e.2]? = some e.1 :=
      fun e he => List.mem_zipIdx_iff_getElem?.1 (List.mem_filter.1 he).1
    have hfilter : (xs.zipIdx.filter (test ∘ Prod.fst)).map Prod.fst = xs.filter test := by
      rw [← List.filter_map, List.zipIdx_map_fst]
    rw [← hfilter, List.map_map, List.map_map]
    exact List.map_congr_left hthere

theorem exists_picked (p : α → Prop) (xs : List α) : ∃ ys, Picked p xs ys := by
  classical
  exact ⟨xs.filter fun x => p x, picked_filter fun _ _ => decide_eq_true_iff⟩

/-- Filtering picks the elements that have a property, and nothing else does. -/
theorem picked_iff_filter {test : α → Bool} (h : ∀ x ∈ xs, test x = true ↔ p x) :
    Picked p xs ys ↔ ys = xs.filter test := by
  refine ⟨fun hys => hys.unique (picked_filter h), ?_⟩
  rintro rfl
  exact picked_filter h

end

/-! ### Looking names up -/

/-- A configuration has a group of that name. -/
def Config.HasGroup (config : Config) (name : String) : Prop :=
  ∃ g ∈ config.groups, g.name = name

namespace Selection

variable {selection : Selection} {config : Config} {groups : List Group} {names : List String}

theorem resolve_of_all (h : selection.wanted? config = none) :
    selection.resolve config = .ok config.groups := by
  unfold resolve
  rw [h]

theorem resolve_of_names (h : selection.wanted? config = some names) :
    selection.resolve config =
      match names.find? fun name => !config.groups.any (·.name = name) with
      | some unknown => .error (.unknownGroup unknown)
      | none => .ok (config.groups.filter fun g => names.contains g.name) := by
  unfold resolve
  split
  · rename_i hnone
    rw [h] at hnone
    cases hnone
  · rename_i hsome
    rw [h] at hsome
    cases hsome
    rfl

/-- The name that is looked up in vain is the first one without a group. -/
theorem find?_eq_some_iff_firstOf {name : String} :
    (names.find? fun name => !config.groups.any (·.name = name)) = some name ↔
      FirstOf (¬ config.HasGroup ·) names name := by
  refine (firstOf_iff_find? fun other => ?_).symm
  simp [Config.HasGroup]

/-- Names lead to groups exactly if each is the name of one, and then to all groups they name. -/
theorem resolve_names_eq_ok_iff (h : selection.wanted? config = some names) :
    selection.resolve config = .ok groups ↔
      (∀ name ∈ names, config.HasGroup name) ∧
        groups = config.groups.filter fun g => names.contains g.name := by
  rw [resolve_of_names h]
  cases hfind : names.find? fun name => !config.groups.any (·.name = name) with
  | some unknown =>
      have hfirst := find?_eq_some_iff_firstOf.1 hfind
      constructor
      · intro hok
        cases hok
      · rintro ⟨hall, -⟩
        exact absurd (hall unknown hfirst.mem) hfirst.holds
  | none =>
      have hall : ∀ name ∈ names, config.HasGroup name := by
        simpa [Config.HasGroup] using hfind
      rw [Except.ok.injEq, eq_comm]
      exact (and_iff_right hall).symm

/-- Otherwise the first name that is the name of none is reported. -/
theorem resolve_names_eq_error_iff (h : selection.wanted? config = some names) {e : ConfigError} :
    selection.resolve config = .error e ↔
      ∃ name, FirstOf (¬ config.HasGroup ·) names name ∧ e = .unknownGroup name := by
  simp only [resolve_of_names h, ← find?_eq_some_iff_firstOf]
  cases names.find? fun name => !config.groups.any (·.name = name) with
  | some unknown => simp [eq_comm]
  | none => simp

/-- A selection keeps the groups whose names it wants. -/
theorem resolve_eq_filter (h : selection.resolve config = .ok groups) :
    ∃ wants : String → Bool, groups = config.groups.filter fun g => wants g.name := by
  cases hnames : selection.wanted? config with
  | none =>
      rw [resolve_of_all hnames] at h
      cases h
      exact ⟨fun _ => true, (List.filter_true _).symm⟩
  | some names => exact ⟨names.contains, ((resolve_names_eq_ok_iff hnames).1 h).2⟩

/-- The selected groups are groups of the configuration in its order. -/
theorem resolve_sublist (h : selection.resolve config = .ok groups) :
    groups.Sublist config.groups := by
  obtain ⟨wants, rfl⟩ := resolve_eq_filter h
  exact List.filter_sublist

end Selection

/-! ### What is said about groups -/

/-- What is said about groups: a flag for the examples, one for the workspace, and names. -/
structure GroupOptions where
  examples : Bool
  workspace : Bool
  listed : List String
  deriving DecidableEq, Repr

/-- Nothing is said. -/
structure GroupOptions.IsSilent (o : GroupOptions) : Prop where
  examples : o.examples = false
  workspace : o.workspace = false
  listed : o.listed = []

/-- The selection that is made of what is said. -/
def GroupOptions.selection (o : GroupOptions) : Selection :=
  .ofFlags o.examples o.workspace o.listed

/-- A name is wanted of a configuration. -/
inductive Wanted (config : Config) (o : GroupOptions) : String → Prop
  | workspace (h : o.workspace = true) : Wanted config o "workspace"
  | examples (h : o.examples = true) : Wanted config o "examples"
  | listed {name : String} (h : name ∈ o.listed) : Wanted config o name
  | byDefault {name : String} {names : List String} (hsilent : o.IsSilent)
      (hdefault : config.defaultGroups = some names) (h : name ∈ names) : Wanted config o name
  | every {name : String} (hsilent : o.IsSilent) (hdefault : config.defaultGroups = none)
      (h : config.HasGroup name) : Wanted config o name

/-- A name is wanted and unknown, and no other such name comes before it: first those of the flags,
that of the workspace before that of the examples, and then the others as they are listed. -/
inductive FirstUnknown (config : Config) (o : GroupOptions) : String → Prop
  | workspace (h : o.workspace = true) (hunknown : ¬ config.HasGroup "workspace") :
      FirstUnknown config o "workspace"
  | examples (hworkspace : o.workspace = true → config.HasGroup "workspace")
      (h : o.examples = true) (hunknown : ¬ config.HasGroup "examples") :
      FirstUnknown config o "examples"
  | listed {name : String} (hworkspace : o.workspace = true → config.HasGroup "workspace")
      (hexamples : o.examples = true → config.HasGroup "examples")
      (h : FirstOf (¬ config.HasGroup ·) o.listed name) : FirstUnknown config o name
  | byDefault {name : String} {names : List String} (hsilent : o.IsSilent)
      (hdefault : config.defaultGroups = some names)
      (h : FirstOf (¬ config.HasGroup ·) names name) : FirstUnknown config o name

section

variable {config : Config} {o : GroupOptions} {name : String}

/-- The names that are said, in the order in which they are looked up. -/
def GroupOptions.said (o : GroupOptions) : List String :=
  (if o.workspace then ["workspace"] else []) ++
    ((if o.examples then ["examples"] else []) ++ o.listed)

theorem GroupOptions.said_eq_nil_iff : o.said = [] ↔ o.IsSilent := by
  obtain ⟨examples, workspace, listed⟩ := o
  constructor
  · intro h
    simp only [said, List.append_eq_nil_iff, ite_eq_right_iff, List.cons_ne_nil, imp_false,
      Bool.not_eq_true] at h
    exact ⟨h.2.1, h.1, h.2.2⟩
  · rintro ⟨rfl, rfl, rfl⟩
    rfl

theorem GroupOptions.wanted?_of_isSilent (h : o.IsSilent) :
    o.selection.wanted? config = config.defaultGroups := by
  obtain ⟨examples, workspace, listed⟩ := o
  obtain ⟨rfl, rfl, rfl⟩ := h
  rfl

theorem GroupOptions.wanted?_of_not (h : ¬ o.IsSilent) :
    o.selection.wanted? config = some o.said := by
  have hsaid : o.said.isEmpty = false := by
    rw [List.isEmpty_eq_false_iff]
    exact mt said_eq_nil_iff.1 h
  have hselection : o.selection = if o.said.isEmpty then .default else .only o.said := by
    rw [selection, Selection.ofFlags, said, List.append_assoc]
    rfl
  rw [hselection, hsaid]
  rfl

/-- What is looked up are the default names if nothing is said, and else the names that are, -/
theorem GroupOptions.wanted?_eq_some {names : List String}
    (h : o.selection.wanted? config = some names) :
    o.IsSilent ∧ config.defaultGroups = some names ∨ ¬ o.IsSilent ∧ o.said = names := by
  by_cases hsilent : o.IsSilent
  · exact .inl ⟨hsilent, (wanted?_of_isSilent hsilent).symm.trans h⟩
  · exact .inr ⟨hsilent, Option.some.inj ((wanted?_of_not hsilent).symm.trans h)⟩

/-- and nothing is looked up only if there are neither. -/
theorem GroupOptions.wanted?_eq_none (h : o.selection.wanted? config = none) :
    o.IsSilent ∧ config.defaultGroups = none := by
  by_cases hsilent : o.IsSilent
  · exact ⟨hsilent, (wanted?_of_isSilent hsilent).symm.trans h⟩
  · cases (wanted?_of_not hsilent).symm.trans h

/-- The name of a flag comes before the others, if the flag is set. -/
theorem mem_flag_append {flag : Bool} {x : String} {rest : List String} :
    name ∈ (if flag then [x] else []) ++ rest ↔ flag = true ∧ name = x ∨ name ∈ rest := by
  cases flag <;> simp

theorem firstOf_flag_append {p : String → Prop} {flag : Bool} {x : String} {rest : List String} :
    FirstOf p ((if flag then [x] else []) ++ rest) name ↔
      (flag = true ∧ p x) ∧ name = x ∨ (flag = true → ¬ p x) ∧ FirstOf p rest name := by
  cases flag with
  | false => simp
  | true => simp [firstOf_cons]

/-- When something is said, the wanted names are those that are looked up. -/
theorem wanted_iff_of_not (h : ¬ o.IsSilent) : Wanted config o name ↔ name ∈ o.said := by
  rw [GroupOptions.said, mem_flag_append, mem_flag_append]
  constructor
  · intro hwanted
    cases hwanted with
    | workspace hflag => exact .inl ⟨hflag, rfl⟩
    | examples hflag => exact .inr (.inl ⟨hflag, rfl⟩)
    | listed hname => exact .inr (.inr hname)
    | byDefault hsilent => exact absurd hsilent h
    | every hsilent => exact absurd hsilent h
  · rintro (⟨hflag, rfl⟩ | ⟨hflag, rfl⟩ | hname)
    · exact .workspace hflag
    · exact .examples hflag
    · exact .listed hname

/-- When nothing is said, they are the default names, or else the names of all groups. -/
theorem wanted_iff_of_isSilent (h : o.IsSilent) :
    Wanted config o name ↔
      (∃ names, config.defaultGroups = some names ∧ name ∈ names) ∨
        config.defaultGroups = none ∧ config.HasGroup name := by
  constructor
  · intro hwanted
    cases hwanted with
    | workspace hflag => exact absurd (h.workspace.symm.trans hflag) Bool.false_ne_true
    | examples hflag => exact absurd (h.examples.symm.trans hflag) Bool.false_ne_true
    | listed hname => exact absurd (h.listed ▸ hname) List.not_mem_nil
    | byDefault _ hdefault hname => exact .inl ⟨_, hdefault, hname⟩
    | every _ hdefault hname => exact .inr ⟨hdefault, hname⟩
  · rintro (⟨names, hdefault, hname⟩ | ⟨hdefault, hname⟩)
    · exact .byDefault h hdefault hname
    · exact .every h hdefault hname

theorem firstUnknown_iff_of_not (h : ¬ o.IsSilent) :
    FirstUnknown config o name ↔ FirstOf (¬ config.HasGroup ·) o.said name := by
  rw [GroupOptions.said, firstOf_flag_append, firstOf_flag_append]
  simp only [not_not]
  constructor
  · intro hfirst
    cases hfirst with
    | workspace hflag hunknown => exact .inl ⟨⟨hflag, hunknown⟩, rfl⟩
    | examples hworkspace hflag hunknown =>
        exact .inr ⟨hworkspace, .inl ⟨⟨hflag, hunknown⟩, rfl⟩⟩
    | listed hworkspace hexamples hname => exact .inr ⟨hworkspace, .inr ⟨hexamples, hname⟩⟩
    | byDefault hsilent => exact absurd hsilent h
  · rintro (⟨⟨hflag, hunknown⟩, rfl⟩ | ⟨hworkspace, ⟨⟨hflag, hunknown⟩, rfl⟩ | ⟨hexamples, hname⟩⟩)
    · exact .workspace hflag hunknown
    · exact .examples hworkspace hflag hunknown
    · exact .listed hworkspace hexamples hname

theorem firstUnknown_iff_of_isSilent (h : o.IsSilent) :
    FirstUnknown config o name ↔
      ∃ names, config.defaultGroups = some names ∧ FirstOf (¬ config.HasGroup ·) names name := by
  constructor
  · intro hfirst
    cases hfirst with
    | workspace hflag => exact absurd (h.workspace.symm.trans hflag) Bool.false_ne_true
    | examples _ hflag => exact absurd (h.examples.symm.trans hflag) Bool.false_ne_true
    | listed _ _ hname => exact absurd (h.listed ▸ hname.mem) List.not_mem_nil
    | byDefault _ hdefault hname => exact ⟨_, hdefault, hname⟩
  · rintro ⟨names, hdefault, hname⟩
    exact .byDefault h hdefault hname

/-- What is looked up is what is wanted, -/
theorem wanted_iff_mem {names : List String} (h : o.selection.wanted? config = some names) :
    Wanted config o name ↔ name ∈ names := by
  obtain ⟨hsilent, hdefault⟩ | ⟨hsaid, rfl⟩ := GroupOptions.wanted?_eq_some h
  · simp [wanted_iff_of_isSilent hsilent, hdefault]
  · exact wanted_iff_of_not hsaid

/-- and when nothing is looked up, every group is wanted. -/
theorem wanted_iff_hasGroup (h : o.selection.wanted? config = none) :
    Wanted config o name ↔ config.HasGroup name := by
  obtain ⟨hsilent, hdefault⟩ := GroupOptions.wanted?_eq_none h
  simp [wanted_iff_of_isSilent hsilent, hdefault]

/-- The first name that is looked up in vain is the first one that is wanted and unknown, -/
theorem firstUnknown_iff_firstOf {names : List String}
    (h : o.selection.wanted? config = some names) :
    FirstUnknown config o name ↔ FirstOf (¬ config.HasGroup ·) names name := by
  obtain ⟨hsilent, hdefault⟩ | ⟨hsaid, rfl⟩ := GroupOptions.wanted?_eq_some h
  · simp [firstUnknown_iff_of_isSilent hsilent, hdefault]
  · exact firstUnknown_iff_of_not hsaid

/-- and when nothing is looked up, there is none. -/
theorem not_firstUnknown (h : o.selection.wanted? config = none) :
    ¬ FirstUnknown config o name := by
  obtain ⟨hsilent, hdefault⟩ := GroupOptions.wanted?_eq_none h
  simp [firstUnknown_iff_of_isSilent hsilent, hdefault]

/-- Groups are found exactly if every wanted name is known, and then those with a wanted name. -/
theorem GroupOptions.resolve_eq_ok_iff {groups : List Group} :
    o.selection.resolve config = .ok groups ↔
      (∀ name, Wanted config o name → config.HasGroup name) ∧
        Picked (fun g => Wanted config o g.name) config.groups groups := by
  cases hnames : o.selection.wanted? config with
  | none =>
      have hpicked : Picked (fun g => Wanted config o g.name) config.groups groups ↔
          groups = config.groups.filter fun _ => true :=
        picked_iff_filter fun g hg =>
          ⟨fun _ => (wanted_iff_hasGroup hnames).2 ⟨g, hg, rfl⟩, fun _ => rfl⟩
      have hknown : ∀ name, Wanted config o name → config.HasGroup name :=
        fun name => (wanted_iff_hasGroup hnames).1
      rw [Selection.resolve_of_all hnames, hpicked, List.filter_true, and_iff_right hknown,
        Except.ok.injEq, eq_comm]
  | some names =>
      have hpicked : Picked (fun g => Wanted config o g.name) config.groups groups ↔
          groups = config.groups.filter fun g => names.contains g.name :=
        picked_iff_filter fun g _ => by rw [List.contains_iff_mem, wanted_iff_mem hnames]
      rw [Selection.resolve_names_eq_ok_iff hnames, hpicked]
      simp only [wanted_iff_mem hnames]

/-- Otherwise the first that is unknown is reported. -/
theorem GroupOptions.resolve_eq_error_iff {e : ConfigError} :
    o.selection.resolve config = .error e ↔
      ∃ name, FirstUnknown config o name ∧ e = .unknownGroup name := by
  cases hnames : o.selection.wanted? config with
  | none => simp [Selection.resolve_of_all hnames, not_firstUnknown hnames]
  | some names =>
      simp only [Selection.resolve_names_eq_error_iff hnames, firstUnknown_iff_firstOf hnames]

/-- The groups that are found are settled by the configured ones and the names that are wanted. -/
theorem GroupOptions.resolve_eq_ok_congr {config' : Config} {o' : GroupOptions}
    (hgroups : config'.groups = config.groups)
    (hwanted : ∀ name, Wanted config' o' name ↔ Wanted config o name) {groups : List Group} :
    o'.selection.resolve config' = .ok groups ↔ o.selection.resolve config = .ok groups := by
  simp only [resolve_eq_ok_iff, hwanted, hgroups, Config.HasGroup]

/-- The same names are wanted when others are listed that are the same but for order and number. -/
theorem Wanted.relist {others : List String} (h : ∀ other, other ∈ others ↔ other ∈ o.listed)
    (hwanted : Wanted config o name) : Wanted config { o with listed := others } name := by
  have hstill : o.IsSilent → GroupOptions.IsSilent { o with listed := others } := by
    intro hsilent
    have hnone : others = [] := List.eq_nil_iff_forall_not_mem.2 fun other hmem =>
      List.not_mem_nil (hsilent.listed ▸ (h other).1 hmem)
    exact ⟨hsilent.examples, hsilent.workspace, hnone⟩
  cases hwanted with
  | workspace hflag => exact .workspace hflag
  | examples hflag => exact .examples hflag
  | listed hname => exact .listed ((h name).2 hname)
  | byDefault hsilent hdefault hname => exact .byDefault (hstill hsilent) hdefault hname
  | every hsilent hdefault hname => exact .every (hstill hsilent) hdefault hname

end

/-! ### Selection as a set -/

/-- A result of selecting groups goes by the set of names that are wanted. -/
structure SelectsSet (config : Config) (o : GroupOptions)
    (result : Except ConfigError (List Group)) : Prop where
  /-- Groups are found exactly if each wanted name is the name of a group. -/
  found_iff : (∃ groups, result = .ok groups) ↔
    ∀ name, Wanted config o name → config.HasGroup name
  /-- They are the groups of the configuration that have a wanted name, each of them once and in the
  order of the configuration, -/
  picked : ∀ groups, result = .ok groups →
    Picked (fun g => Wanted config o g.name) config.groups groups
  /-- all of them when nothing is said and there are no default names. -/
  every : o.IsSilent → config.defaultGroups = none → result = .ok config.groups
  /-- Otherwise the first name that is unknown is reported. -/
  unknown : ∀ e, result = .error e ↔ ∃ name, FirstUnknown config o name ∧ e = .unknownGroup name
  /-- Whatever else wants the same names of the same groups finds the same, -/
  asSet : ∀ (config' : Config) (o' : GroupOptions), config'.groups = config.groups →
    (∀ name, Wanted config' o' name ↔ Wanted config o name) →
      ∀ groups, o'.selection.resolve config' = .ok groups ↔ result = .ok groups
  /-- as do the same names in another order or number. -/
  unordered : ∀ others, (∀ name, name ∈ others ↔ name ∈ o.listed) →
    ∀ groups, { o with listed := others }.selection.resolve config = .ok groups ↔
      result = .ok groups

/-- **Groups are selected as a set of names**, whatever is said and however often names occur. -/
theorem resolve_selectsSet (config : Config) (o : GroupOptions) :
    SelectsSet config o (o.selection.resolve config) where
  found_iff := by
    constructor
    · rintro ⟨groups, hgroups⟩
      exact (GroupOptions.resolve_eq_ok_iff.1 hgroups).1
    · intro hknown
      obtain ⟨groups, hpicked⟩ := exists_picked (fun g => Wanted config o g.name) config.groups
      exact ⟨groups, GroupOptions.resolve_eq_ok_iff.2 ⟨hknown, hpicked⟩⟩
  picked := fun groups hgroups => (GroupOptions.resolve_eq_ok_iff.1 hgroups).2
  every := by
    intro hsilent hdefault
    have hnames : o.selection.wanted? config = config.defaultGroups :=
      GroupOptions.wanted?_of_isSilent hsilent
    exact Selection.resolve_of_all (hnames.trans hdefault)
  unknown := fun e => GroupOptions.resolve_eq_error_iff
  asSet := fun config' o' hgroups hwanted groups =>
    GroupOptions.resolve_eq_ok_congr hgroups hwanted
  unordered := by
    intro others hothers groups
    refine GroupOptions.resolve_eq_ok_congr rfl fun name => ?_
    exact ⟨Wanted.relist fun other => (hothers other).symm, Wanted.relist hothers⟩

namespace Sample

/-- Two groups of one name around another, which runs by default. -/
def twins : Config where
  language := Config.defaultLanguage
  env := .empty
  defaultGroups := some ["workspace"]
  axes := []
  groups := [⟨"lint", "of the code", []⟩, ⟨"workspace", "", []⟩, ⟨"lint", "of the texts", []⟩]

/-- Both are found, each once, although the name is said twice. -/
example : (GroupOptions.mk false false ["lint", "lint"]).selection.resolve twins =
    .ok [⟨"lint", "of the code", []⟩, ⟨"lint", "of the texts", []⟩] := by
  decide

/-- A flag without a group is reported before a name without one. -/
example : (GroupOptions.mk true true ["docs"]).selection.resolve twins =
    .error (.unknownGroup "examples") := by
  decide

end Sample

end CheckMatrix
