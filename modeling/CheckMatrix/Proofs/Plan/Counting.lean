/-
How many steps a template has.

A template stands for one step for each combination of the values of the axes that it refers to, and
there are as many combinations as the product of the numbers of values says (`cardinality`).  A
cursor meets them one after the other and would come round behind the last; how often it moves is
counted beforehand in a 64-bit word, in which the product wraps (`toNat_wordCount`).  So a template
is expanded over the first of its combinations, as many as the word says (`expand_counts`).

The word is the product as long as the product fits.  From there on combinations are lost, and
nothing tells: sixteen axes of sixteen values are expanded to no step at all
(`Sample.expand_loses_combinations`).
-/
import CheckMatrix.Proofs.Plan.Acceptance

namespace CheckMatrix

/-! ### Counting in words -/

/-- The number of combinations as a word counts it, axis by axis. -/
def wordCount (axes : List Axis) : UInt64 :=
  axes.foldl (fun count axis => count * .ofNat axis.values.length) 1

/-- **A product of words wraps once, however many products it is made of.** -/
theorem toNat_wordCount (axes : List Axis) : (wordCount axes).toNat = countedCombinations axes := by
  have hfold : ∀ count : UInt64,
      (axes.foldl (fun count axis => count * .ofNat axis.values.length) count).toNat =
        count.toNat * combinations axes % 2 ^ 64 := by
    induction axes with
    | nil => exact fun count => by rw [List.foldl_nil, show combinations [] = 1 from rfl, mul_one,
        Nat.mod_eq_of_lt count.toNat_lt]
    | cons axis rest ih =>
        intro count
        rw [List.foldl_cons, ih, combinations_cons, UInt64.toNat_mul, UInt64.toNat_ofNat',
          ← mul_assoc]
        simp [Nat.mul_mod]
  rw [wordCount, hfold]
  exact congrArg (· % _) (Nat.one_mul _)

/-! ### Counting combinations -/

theorem length_bindingsOver (lists : List (String × List String)) :
    (bindingsOver lists).length = (lists.map fun entry => entry.2.length).prod := by
  induction lists with
  | nil => rfl
  | cons entry rest ih =>
      rw [bindingsOver, List.length_flatMap, List.map_cons, List.prod_cons]
      simp [ih]

/-- A combination has one value for each axis, in the order of the axes. -/
theorem names_of_mem_bindingsOver {lists : List (String × List String)} {b : Binding}
    (h : b ∈ bindingsOver lists) : b.map Prod.fst = lists.map Prod.fst := by
  induction lists generalizing b with
  | nil =>
      obtain rfl := List.mem_singleton.1 h
      rfl
  | cons entry rest ih =>
      obtain ⟨value, -, h⟩ := List.mem_flatMap.1 h
      obtain ⟨others, hothers, rfl⟩ := List.mem_map.1 h
      rw [List.map_cons, ih hothers, List.map_cons]

theorem StepTemplate.names_of_mem_bindingsOf {t : StepTemplate} {axes : List Axis} {b : Binding}
    (h : b ∈ t.bindingsOf axes) : b.map Prod.fst = (t.axesOf axes).map Axis.name := by
  rw [names_of_mem_bindingsOver h, List.map_map]
  rfl

/-- The number of values of the axis of a name. -/
def valueCount (axes : List Axis) (name : String) : Nat :=
  ((axes.find? (·.name = name)).map (·.values.length)).getD 0

/-- The number of combinations of the values of the axes that a template refers to. -/
def StepTemplate.cardinality (axes : List Axis) (t : StepTemplate) : Nat :=
  (t.referencedAxes.map (valueCount axes)).prod

theorem valueCount_of_mem {axes : List Axis} (hnames : (axes.map Axis.name).Nodup) {axis : Axis}
    (haxis : axis ∈ axes) : valueCount axes axis.name = axis.values.length := by
  have hfirst : axes.find? (·.name = axis.name) = some axis := by
    obtain ⟨front, back, rfl⟩ := List.append_of_mem haxis
    refine List.find?_eq_some_iff_append.2 ⟨by simp, front, back, rfl, fun other hother => ?_⟩
    rw [List.map_append, List.nodup_append] at hnames
    simpa using hnames.2.2 other.name (List.mem_map_of_mem hother) axis.name (by simp)
  rw [valueCount, hfirst]
  rfl

/-- A template refers to what its texts name, -/
theorem StepTemplate.keeps_referencedAxes (t : StepTemplate) :
    Keeps (· = ·) ((t.texts.flatMap Piece.scan).filterMap Piece.axis?) t.referencedAxes :=
  keepFirst_keeps (by simp) _

/-- and to no axis twice. -/
theorem StepTemplate.nodup_referencedAxes (t : StepTemplate) : t.referencedAxes.Nodup :=
  t.keeps_referencedAxes.apart.imp fun h => of_decide_eq_false h

/-- The axes that a template uses are axes that it refers to, -/
theorem StepTemplate.mem_referencedAxes_of_mem_axesOf {t : StepTemplate} {axes : List Axis}
    {axis : Axis} (h : axis ∈ t.axesOf axes) : axis.name ∈ t.referencedAxes :=
  List.contains_iff_mem.1 (List.mem_filter.1 h).2

/-- and all of these if they are known. -/
theorem StepTemplate.mem_names_axesOf_iff {t : StepTemplate} {axes : List Axis}
    (hknown : ∀ name ∈ t.referencedAxes, Known axes name) {name : String} :
    name ∈ (t.axesOf axes).map Axis.name ↔ name ∈ t.referencedAxes := by
  constructor
  · intro hname
    obtain ⟨axis, haxis, rfl⟩ := List.mem_map.1 hname
    exact t.mem_referencedAxes_of_mem_axesOf haxis
  · intro hname
    obtain ⟨axis, haxis, rfl⟩ := hknown name hname
    exact List.mem_map_of_mem (List.mem_filter.2 ⟨haxis, List.contains_iff_mem.2 hname⟩)

/-- The product does not depend on the order in which a template refers to its axes. -/
theorem StepTemplate.cardinality_eq {t : StepTemplate} {axes : List Axis}
    (hnames : (axes.map Axis.name).Nodup) (hknown : ∀ name ∈ t.referencedAxes, Known axes name) :
    t.cardinality axes = combinations (t.axesOf axes) := by
  have hperm : ((t.axesOf axes).map Axis.name).Perm t.referencedAxes := by
    have hused : ((t.axesOf axes).map Axis.name).Nodup :=
      (List.filter_sublist.map Axis.name).nodup hnames
    exact (List.perm_ext_iff_of_nodup hused t.nodup_referencedAxes).2 fun name =>
      StepTemplate.mem_names_axesOf_iff hknown
  have hsizes : ((t.axesOf axes).map Axis.name).map (valueCount axes) =
      (t.axesOf axes).map (·.values.length) := by
    rw [List.map_map]
    exact List.map_congr_left fun axis haxis =>
      valueCount_of_mem hnames (List.mem_of_mem_filter haxis)
  calc t.cardinality axes = (((t.axesOf axes).map Axis.name).map (valueCount axes)).prod :=
        ((hperm.map _).prod_eq).symm
    _ = combinations (t.axesOf axes) := by
        rw [hsizes]
        exact List.prod_eq_foldr

/-! ### Walks that stop early -/

/-- A walk meets the combinations in order, as many as it is long. -/
theorem Cursor.walk_bindings_take {axes : List Axis} (h : Filled axes) {count : Nat}
    (hcount : count ≤ combinations axes) :
    (walk axes count (first axes)).map (binding axes) =
      (bindingsOver (axes.map Axis.entry)).take count := by
  have hall := range_bindings h
  change _ = bindingsOver (axes.map Axis.entry) at hall
  rw [← hall, ← digits_zero, walk_digits h, ← List.range_eq_range', List.map_map, ← List.map_take,
    List.take_range, Nat.min_eq_left hcount]
  rfl

/-- A template that is expanded has a step for each of its first combinations, as many of them as
a word can count. -/
theorem expandTemplate_take {env : Environment} {axes : List Axis} {t : StepTemplate}
    {steps : List Step} (h : expandTemplate env axes t = .ok steps) :
    (∀ name ∈ t.referencedAxes, Known axes name) ∧ Filled (t.axesOf axes) ∧
      List.Forall₂ (t.Instantiated env)
        ((t.bindingsOf axes).take (countedCombinations (t.axesOf axes))) steps := by
  obtain ⟨used, hused, hmade⟩ := expandTemplate_made h
  obtain ⟨hknown, hfilled, rfl⟩ := StepTemplate.usedAxes_eq_ok_iff.1 hused
  have hcount : countedCombinations (t.axesOf axes) ≤ combinations (t.axesOf axes) :=
    Nat.mod_le _ _
  exact ⟨hknown, hfilled, Cursor.walk_bindings_take hfilled hcount ▸ hmade⟩

/-! ### Lists of templates -/

/-- **Templates are expanded over as many combinations as a word can count.**  The steps of a
template are made of the first of its combinations, in order.  Their number is that of all its
combinations, but as it is left when the product is made in words.  So there is a step for every
combination exactly when the product fits, and none exactly when it is a multiple of the number of
words. -/
theorem expand_counts {env : Environment} {axes : List Axis} {templates : List StepTemplate}
    {steps : List Step} (hnames : (axes.map Axis.name).Nodup)
    (h : expand env axes templates = .ok steps) :
    ∃ blocks, steps = blocks.flatten ∧ List.Forall₂ (fun t block =>
      (t.bindingsOf axes).length = t.cardinality axes ∧ 0 < t.cardinality axes ∧
      List.Forall₂ (t.Instantiated env)
        ((t.bindingsOf axes).take (wordCount (t.axesOf axes)).toNat) block ∧
      block.length = t.cardinality axes % 2 ^ 64 ∧
      (block.length = t.cardinality axes ↔ t.cardinality axes < 2 ^ 64) ∧
      (block = [] ↔ 2 ^ 64 ∣ t.cardinality axes)) templates blocks := by
  obtain ⟨blocks, hsteps, hblocks⟩ := expandFrom_blocks h
  refine ⟨blocks, hsteps, hblocks.imp fun t block hblock => ?_⟩
  obtain ⟨hknown, hfilled, hmade⟩ := expandTemplate_take hblock
  have hcard := t.cardinality_eq hnames hknown
  have hall : (t.bindingsOf axes).length = t.cardinality axes := by
    rw [StepTemplate.bindingsOf, length_bindingsOver, ← combinations_eq_prod, hcard]
  have hlength : block.length = t.cardinality axes % 2 ^ 64 := by
    rw [← hmade.length_eq, List.length_take, hall, hcard]
    exact Nat.min_eq_left (Nat.mod_le _ _)
  refine ⟨hall, hcard ▸ combinations_pos hfilled, ?_, hlength, ?_, ?_⟩
  · rw [toNat_wordCount]
    exact hmade
  · rw [hlength, Nat.mod_eq_iff_lt (by decide)]
  · rw [← List.length_eq_zero_iff, hlength, Nat.dvd_iff_mod_eq_zero]

/-! ### A product that fits and one that does not -/

namespace Sample

/-- Three axes, one of which the template does not refer to. -/
def smallAxes : List Axis :=
  [⟨"target", ["gnu", "musl"], by decide⟩, ⟨"unused", [], List.nodup_nil⟩,
    ⟨"mode", ["debug", "release", "bench"], by decide⟩]

/-- A template that refers to its axes in another order. -/
def smallTemplate : StepTemplate :=
  ⟨"{mode} for {target}", none, [⟨"make {mode}", none, none⟩]⟩

/-- Two values and three values make six steps. -/
theorem expand_counts_six :
    (smallAxes.map Axis.name).Nodup ∧ smallTemplate.cardinality smallAxes = 6 ∧
      ∃ steps, expand ⟨.empty, ⟨[], none⟩⟩ smallAxes [smallTemplate] = .ok steps ∧
        steps.length = 6 := by
  have hnames : (smallAxes.map Axis.name).Nodup := by decide
  have hcard : smallTemplate.cardinality smallAxes = 6 := by decide +kernel
  have hsteps : ∃ steps, expand ⟨.empty, ⟨[], none⟩⟩ smallAxes [smallTemplate] = .ok steps := by
    have hsome : (expand ⟨.empty, ⟨[], none⟩⟩ smallAxes [smallTemplate]).toOption.isSome = true := by
      decide +kernel
    obtain ⟨steps, hsteps⟩ := Option.isSome_iff_exists.1 hsome
    exact ⟨steps, eq_ok_of_toOption hsteps⟩
  obtain ⟨steps, hsteps⟩ := hsteps
  obtain ⟨blocks, rfl, hblocks⟩ := expand_counts hnames hsteps
  obtain ⟨block, others, ⟨-, -, -, -, hfits, -⟩, hothers, rfl⟩ :=
    List.forall₂_cons_left_iff.1 hblocks
  rw [List.forall₂_nil_left_iff.1 hothers] at hsteps
  rw [hcard] at hfits
  exact ⟨hnames, hcard, _, hsteps, by simpa using hfits.2 (by decide)⟩

/-- Sixteen wheels, each with sixteen digits. -/
def wheels : List Axis :=
  ["a", "b", "c", "d", "e", "f", "g", "h", "i", "j", "k", "l", "m", "n", "o", "p"].map
    fun name => ⟨name, sixteen, nodup_sixteen⟩

/-- A template that refers to all of them. -/
def wheelTemplate : StepTemplate :=
  ⟨"{a}{b}{c}{d}{e}{f}{g}{h}{i}{j}{k}{l}{m}{n}{o}{p}", none, [⟨"make", none, none⟩]⟩

/-- A template with a combination for every word, and no step. -/
theorem expand_loses_combinations :
    (wheels.map Axis.name).Nodup ∧ Filled wheels ∧ wheelTemplate.cardinality wheels = 2 ^ 64 ∧
      expand ⟨.empty, ⟨[], none⟩⟩ wheels [wheelTemplate] = .ok [] := by
  refine ⟨by decide, fun axis haxis => ?_, by decide +kernel,
    eq_ok_of_toOption (by decide +kernel)⟩
  obtain ⟨name, -, rfl⟩ := List.mem_map.1 haxis
  exact List.cons_ne_nil _ _

end Sample

end CheckMatrix
