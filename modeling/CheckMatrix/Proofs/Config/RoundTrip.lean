/-
Configurations are read back as they were written.

A record is written as a table with a part for each of its fields, and some fields may be left out.
Whether it comes back is a matter of each field by itself: a `Part` is a field with what is written
for it, and with what may be found in its place so that it reads as its value.  `MadeOf` says that a
record is made of parts, one for each name; from then on nothing depends on which record it is
(`MadeOf.faithful`).  The five records come at the end, each with the list of its parts.

A field that may be left out is left out exactly when its absence reads as the value that it has.
Other fields are written whatever they are, also those whose absence would read as something.
-/
import CheckMatrix.ConfigForm
import Mathlib.Data.List.Nodup

namespace CheckMatrix

open Toml

/-! ### Tables of parts -/

namespace Toml.Value

/-- The table with the parts that are given for some names. -/
def ofParts (names : List String) (given : String → Option Value) : Value :=
  .table (names.filterMap fun name => (given name).map (name, ·))

/-- The keys of a table. -/
def keys : Value → List String
  | .table entries => entries.map Prod.fst
  | _ => []

/-- The table without what stands under a key. -/
def without (name : String) : Value → Value
  | .table entries => .table (entries.filter fun e => e.1 ≠ name)
  | v => v

variable {names : List String} {given : String → Option Value} {name : String}

theorem lookup_ofParts : (names.filterMap fun n => (given n).map (n, ·)).lookup name =
    if name ∈ names then given name else none := by
  induction names with
  | nil => rfl
  | cons other rest ih =>
      rw [List.filterMap_cons]
      by_cases hsame : name = other
      · subst hsame
        cases hgiven : given name with
        | none => simp [hgiven, ih]
        | some part => simp
      · have hother : (name == other) = false := beq_false_of_ne hsame
        cases given other with
        | none => simp [hsame, ih]
        | some part => simp [List.lookup_cons, hother, hsame, ih]

/-- What is found under a name is what was given for it. -/
theorem field?_ofParts (h : name ∈ names) (position : Nat) :
    (ofParts names given).field? name position = some (given name) := by
  unfold field? ofParts
  simp only [lookup_ofParts, if_pos h]

@[simp] theorem required?_ofParts {α : Type} (h : name ∈ names) (position : Nat)
    (value? : Value → Option α) :
    (ofParts names given).required? name position value? = (given name).bind value? := by
  unfold required?
  rw [field?_ofParts h]
  cases given name with
  | none => rfl
  | some part => rfl

@[simp] theorem optional?_ofParts {α : Type} (h : name ∈ names) (position : Nat) (absent : α)
    (value? : Value → Option α) :
    (ofParts names given).optional? name position absent value? =
      (given name).elim (some absent) value? := by
  unfold optional?
  rw [field?_ofParts h]
  cases given name with
  | none => rfl
  | some part => rfl

theorem keys_ofParts : (ofParts names given).keys = names.filter fun n => (given n).isSome := by
  unfold keys ofParts
  simp only [List.map_filterMap]
  rw [← List.filterMap_eq_filter]
  refine List.filterMap_congr fun n _ => ?_
  cases h : given n with
  | none => simp [Option.guard, h]
  | some part => simp [Option.guard, h]

/-- Taking a part away is not giving it. -/
theorem without_ofParts : (ofParts names given).without name =
    ofParts names fun n => if n = name then none else given n := by
  unfold without ofParts
  simp only [List.filter_filterMap]
  congr 1
  refine List.filterMap_congr fun n _ => ?_
  by_cases hsame : n = name
  · cases given n with
    | none => simp [hsame]
    | some part => simp [hsame]
  · cases given n with
    | none => simp [hsame]
    | some part => simp [hsame]

@[simp] theorem strangersReadable_ofParts : (ofParts names given).strangersReadable names = true := by
  unfold strangersReadable ofParts
  have hnone : ((names.filterMap fun n => (given n).map (n, ·)).filter
      fun e => !names.contains e.1) = [] := by
    rw [List.filter_eq_nil_iff]
    intro e he
    obtain ⟨n, hn, hpart⟩ := List.mem_filterMap.1 he
    obtain ⟨part, -, rfl⟩ := Option.map_eq_some_iff.1 hpart
    simpa using hn
  simp only [hnone]
  rfl

theorem list?_map {α : Type} {write : α → Value} {value? : Value → Option α}
    (h : ∀ x, value? (write x) = some x) (xs : List α) :
    (Value.array (xs.map write)).list? value? = some xs := by
  induction xs with
  | nil => rfl
  | cons x rest ih =>
      simp only [list?] at ih ⊢
      rw [List.map_cons, List.mapM_cons, h, ih]
      rfl

end Toml.Value

/-! ### Records -/

/-- How a record is written as a table and read again.  The skippable fields may be left out. -/
structure Form (α : Type) where
  names : List String
  skippable : List String
  write : α → Value
  read? : Value → Option α

/-- A record is written so that nothing is lost and nothing is written twice. -/
structure Form.Faithful {α : Type} (f : Form α) (a : α) : Prop where
  /-- What is written reads as the record, -/
  reads : f.read? (f.write a) = some a
  /-- and is written the same again. -/
  again : (f.read? (f.write a)).map f.write = some (f.write a)
  /-- Only fields are written, in their order and each at most once. -/
  keys : (f.write a).keys.Sublist f.names
  /-- A field is left out exactly when it may be and its absence reads as the value it has. -/
  omits_iff : ∀ name ∈ f.names, name ∉ (f.write a).keys ↔
    name ∈ f.skippable ∧ f.read? ((f.write a).without name) = some a

/-- A field of a record: whether it may be left out, what is written for it, and what may be found
in its place so that it reads as its value. -/
structure Part where
  name : String
  skippable : Bool
  written : Option Value
  restores : Option Value → Prop

/-- What is written for a field restores it, and nothing is written when nothing would do, if the
field may be left out. -/
structure Part.Sound (p : Part) : Prop where
  restores : p.restores p.written
  skips : p.written = none ↔ p.skippable = true ∧ p.restores none

namespace Part

variable {β : Type} {name : String} {absent x : β} {value? : Value → Option β} {value : Value}
  {written : Option Value}

/-- A field that has to be there. -/
@[simps]
def required (name : String) (value? : Value → Option β) (value : Value) (x : β) : Part :=
  ⟨name, false, some value, fun given => given.bind value? = some x⟩

/-- A field that is always written, although it may be absent. -/
@[simps]
def defaulted (name : String) (absent : β) (value? : Value → Option β) (value : Value) (x : β) :
    Part :=
  ⟨name, false, some value, fun given => given.elim (some absent) value? = some x⟩

/-- A field that may be left out. -/
@[simps]
def omittable (name : String) (absent : β) (value? : Value → Option β) (written : Option Value)
    (x : β) : Part :=
  ⟨name, true, written, fun given => given.elim (some absent) value? = some x⟩

theorem required_sound (h : value? value = some x) : (required name value? value x).Sound :=
  ⟨h, by simp⟩

theorem defaulted_sound (h : value? value = some x) :
    (defaulted name absent value? value x).Sound :=
  ⟨h, by simp⟩

/-- A field that is left out when it is empty. -/
theorem omittable_sound_of_empty {empty : Bool} (h : value? value = some x)
    (hempty : empty = true ↔ x = absent) :
    (omittable name absent value? (if empty then none else some value) x).Sound := by
  cases empty with
  | true =>
      obtain rfl := hempty.1 rfl
      exact ⟨rfl, by simp⟩
  | false =>
      have hne : absent ≠ x := fun heq => Bool.false_ne_true (hempty.2 heq.symm)
      exact ⟨h, by simpa using hne⟩

/-- A field that is left out when there is none. -/
theorem omittable_sound_of_option {write : β → Value} (h : ∀ y, value? (write y) = some y)
    (x : Option β) :
    (omittable name none (fun part => (value? part).map some) (x.map write) x).Sound := by
  cases x with
  | none => exact ⟨rfl, by simp⟩
  | some y => exact ⟨by simp [h], by simp⟩

end Part

/-- A record is made of parts: they are written, and reading restores the record exactly when it
restores every part. -/
structure Form.MadeOf {α : Type} (f : Form α) (a : α) (parts : List Part) : Prop where
  names : parts.map Part.name = f.names
  distinct : f.names.Nodup
  skippable : ∀ p ∈ parts, p.name ∈ f.skippable ↔ p.skippable = true
  write : f.write a = .table (parts.filterMap fun p => p.written.map (p.name, ·))
  read_iff : ∀ given, f.read? (.ofParts f.names given) = some a ↔
    ∀ p ∈ parts, p.restores (given p.name)
  sound : ∀ p ∈ parts, p.Sound

namespace Form.MadeOf

variable {α : Type} {f : Form α} {a : α} {parts : List Part}

theorem part_eq (h : f.MadeOf a parts) {p q : Part} (hp : p ∈ parts) (hq : q ∈ parts)
    (hname : p.name = q.name) : p = q :=
  List.inj_on_of_nodup_map (h.names ▸ h.distinct) hp hq hname

/-- What is written for each part, by its name. -/
theorem exists_given (h : f.MadeOf a parts) : ∃ given : String → Option Value,
    (∀ p ∈ parts, given p.name = p.written) ∧ f.write a = .ofParts f.names given := by
  let given : String → Option Value := fun name =>
    (parts.find? (·.name = name)).bind Part.written
  have hgiven : ∀ p ∈ parts, given p.name = p.written := by
    intro p hp
    obtain ⟨q, hq⟩ : ∃ q, parts.find? (·.name = p.name) = some q :=
      Option.isSome_iff_exists.1 (List.find?_isSome.2 ⟨p, hp, by simp⟩)
    have hsame := h.part_eq (List.mem_of_find?_eq_some hq) hp
      (by simpa using List.find?_some hq)
    simp only [given, hq, hsame, Option.bind_some]
  refine ⟨given, hgiven, ?_⟩
  rw [h.write, ← h.names, Value.ofParts, List.filterMap_map]
  refine congrArg Value.table (List.filterMap_congr fun p hp => ?_)
  rw [Function.comp_apply, hgiven p hp]

/-- **A record made of parts is written faithfully.** -/
theorem faithful (h : f.MadeOf a parts) : f.Faithful a := by
  obtain ⟨given, hgiven, hwrite⟩ := h.exists_given
  have hreads : f.read? (f.write a) = some a := by
    rw [hwrite, h.read_iff]
    intro p hp
    rw [hgiven p hp]
    exact (h.sound p hp).restores
  refine ⟨hreads, by rw [hreads]; rfl, ?_, ?_⟩
  · rw [hwrite, Value.keys_ofParts]
    exact List.filter_sublist
  · intro name hname
    obtain ⟨p, hp, rfl⟩ : ∃ p ∈ parts, p.name = name := by
      rwa [← h.names, List.mem_map] at hname
    have hkeys : p.name ∉ (f.write a).keys ↔ p.written = none := by
      rw [hwrite, Value.keys_ofParts, List.mem_filter, hgiven p hp]
      simp [hname]
    -- the other parts are restored anyway
    have hwithout : f.read? ((f.write a).without p.name) = some a ↔ p.restores none := by
      rw [hwrite, Value.without_ofParts, h.read_iff]
      constructor
      · intro hall
        simpa using hall p hp
      · intro hnone q hq
        by_cases hsame : q.name = p.name
        · rw [if_pos hsame, h.part_eq hq hp hsame]
          exact hnone
        · rw [if_neg hsame, hgiven q hq]
          exact (h.sound q hq).restores
    rw [hkeys, hwithout, h.skippable p hp]
    exact (h.sound p hp).skips

end Form.MadeOf

/-! ### Commands and steps -/

theorem text?_string (text : String) : (Value.string text).text? = some text := rfl

/-- The form of command templates. -/
def CommandTemplate.form : Form CommandTemplate where
  names := ["run", "dir", "log"]
  skippable := ["dir", "log"]
  write := toValue
  read? := ofValue?

/-- The parts of a command template. -/
def CommandTemplate.parts (c : CommandTemplate) : List Part := [
  .required "run" Value.text? (.string c.run) c.run,
  .omittable "dir" none (fun part => part.text?.map some) (c.dir.map .string) c.dir,
  .omittable "log" none (fun part => part.text?.map some) (c.log.map .string) c.log]

theorem CommandTemplate.madeOf (c : CommandTemplate) : form.MadeOf c c.parts where
  names := rfl
  distinct := by decide
  skippable := by simp [parts, form]
  write := by
    simp only [form, toValue, parts]
    cases c.dir <;> cases c.log <;> rfl
  read_iff := by
    intro given
    obtain ⟨run, dir, log⟩ := c
    simp [form, ofValue?, parts, guard, Option.bind_eq_some_iff]
  sound := by
    rw [parts, List.forall_mem_cons, List.forall_mem_cons, List.forall_mem_singleton]
    exact ⟨Part.required_sound rfl, Part.omittable_sound_of_option text?_string c.dir,
      Part.omittable_sound_of_option text?_string c.log⟩

theorem CommandTemplate.ofValue?_toValue (c : CommandTemplate) : ofValue? c.toValue = some c :=
  c.madeOf.faithful.reads

/-- The form of step templates. -/
def StepTemplate.form : Form StepTemplate where
  names := ["label", "dir", "commands"]
  skippable := ["dir"]
  write := toValue
  read? := ofValue?

/-- The parts of a step template. -/
def StepTemplate.parts (t : StepTemplate) : List Part := [
  .required "label" Value.text? (.string t.label) t.label,
  .omittable "dir" none (fun part => part.text?.map some) (t.dir.map .string) t.dir,
  .required "commands" (Value.list? CommandTemplate.ofValue?)
    (.array (t.commands.map CommandTemplate.toValue)) t.commands]

theorem StepTemplate.madeOf (t : StepTemplate) : form.MadeOf t t.parts where
  names := rfl
  distinct := by decide
  skippable := by simp [parts, form]
  write := by
    simp only [form, toValue, parts]
    cases t.dir <;> rfl
  read_iff := by
    intro given
    obtain ⟨label, dir, commands⟩ := t
    simp [form, ofValue?, parts, guard, Option.bind_eq_some_iff]
  sound := by
    rw [parts, List.forall_mem_cons, List.forall_mem_cons, List.forall_mem_singleton]
    exact ⟨Part.required_sound rfl, Part.omittable_sound_of_option text?_string t.dir,
      Part.required_sound (Value.list?_map CommandTemplate.ofValue?_toValue t.commands)⟩

theorem StepTemplate.ofValue?_toValue (t : StepTemplate) : ofValue? t.toValue = some t :=
  t.madeOf.faithful.reads

/-! ### Groups and axes -/

/-- The form of groups. -/
def Group.form : Form Group where
  names := ["name", "description", "steps"]
  skippable := ["description"]
  write := toValue
  read? := ofValue?

/-- The parts of a group. -/
def Group.parts (g : Group) : List Part := [
  .required "name" Value.text? (.string g.name) g.name,
  .omittable "description" "" Value.text?
    (if g.description.isEmpty then none else some (.string g.description)) g.description,
  .required "steps" (Value.list? StepTemplate.ofValue?)
    (.array (g.steps.map StepTemplate.toValue)) g.steps]

theorem Group.madeOf (g : Group) : form.MadeOf g g.parts where
  names := rfl
  distinct := by decide
  skippable := by simp [parts, form]
  write := by
    simp only [form, toValue, parts]
    cases g.description.isEmpty <;> rfl
  read_iff := by
    intro given
    obtain ⟨name, description, steps⟩ := g
    simp [form, ofValue?, parts, guard, Option.bind_eq_some_iff]
  sound := by
    rw [parts, List.forall_mem_cons, List.forall_mem_cons, List.forall_mem_singleton]
    exact ⟨Part.required_sound rfl,
      Part.omittable_sound_of_empty rfl String.isEmpty_iff,
      Part.required_sound (Value.list?_map StepTemplate.ofValue?_toValue g.steps)⟩

theorem Group.ofValue?_toValue (g : Group) : ofValue? g.toValue = some g :=
  g.madeOf.faithful.reads

theorem list?_ofTexts (texts : List String) : (ofTexts texts).list? Value.text? = some texts :=
  Value.list?_map text?_string texts

/-- The form of axes. -/
def AxisSource.form : Form AxisSource where
  names := ["name", "values", "dirs_in"]
  skippable := ["dirs_in"]
  write := toValue
  read? := ofValue?

/-- The parts of an axis. -/
def AxisSource.parts (a : AxisSource) : List Part := [
  .required "name" Value.text? (.string a.name) a.name,
  .defaulted "values" [] (Value.list? Value.text?) (ofTexts a.values) a.values,
  .omittable "dirs_in" [] (Value.list? Value.text?)
    (if a.dirsIn.isEmpty then none else some (ofTexts a.dirsIn)) a.dirsIn]

theorem AxisSource.madeOf (a : AxisSource) : form.MadeOf a a.parts where
  names := rfl
  distinct := by decide
  skippable := by simp [parts, form]
  write := by
    simp only [form, toValue, parts]
    cases a.dirsIn.isEmpty <;> rfl
  read_iff := by
    intro given
    obtain ⟨name, values, dirsIn⟩ := a
    simp [form, ofValue?, parts, guard, Option.bind_eq_some_iff]
  sound := by
    rw [parts, List.forall_mem_cons, List.forall_mem_cons, List.forall_mem_singleton]
    exact ⟨Part.required_sound rfl, Part.defaulted_sound (list?_ofTexts a.values),
      Part.omittable_sound_of_empty (list?_ofTexts a.dirsIn) List.isEmpty_iff⟩

theorem AxisSource.ofValue?_toValue (a : AxisSource) : ofValue? a.toValue = some a :=
  a.madeOf.faithful.reads

/-! ### Tables of variables -/

/-- A variable behind all others is put at the end. -/
theorem insertVariable_of_lt {name value : String} {entries : List (String × String)}
    (h : ∀ e ∈ entries, e.1 < name) :
    insertVariable name value entries = entries ++ [(name, value)] := by
  induction entries with
  | nil => rfl
  | cons first rest ih =>
      obtain ⟨hfirst, hrest⟩ := List.forall_mem_cons.1 h
      rw [insertVariable, if_neg (String.lt_asymm hfirst), if_neg (String.ne_of_lt hfirst).symm,
        ih hrest]
      rfl

/-- Settings in the order of a table are put behind it as they are. -/
theorem foldl_insert_entries (settings : List (String × String)) :
    ∀ t : EnvTable, (t.entries ++ settings).Pairwise (fun a b => a.1 < b.1) →
      (settings.foldl (fun t e => t.insert e.1 e.2) t).entries = t.entries ++ settings := by
  induction settings with
  | nil => exact fun t _ => (List.append_nil _).symm
  | cons e rest ih =>
      intro t hsorted
      have hlast : (t.insert e.1 e.2).entries = t.entries ++ [e] := by
        refine insertVariable_of_lt fun e' he' => ?_
        exact (List.pairwise_append.1 hsorted).2.2 e' he' e List.mem_cons_self
      rw [List.foldl_cons, ih _ (by rw [hlast]; simpa using hsorted), hlast, List.append_assoc]
      rfl

/-- A table is made of its own entries. -/
theorem EnvTable.ofList_entries (t : EnvTable) : ofList t.entries = t := by
  have hentries : (ofList t.entries).entries = t.entries :=
    foldl_insert_entries t.entries empty t.sorted
  generalize ofList t.entries = t' at hentries
  cases t'
  cases t
  cases hentries
  rfl

theorem EnvTable.ofValue?_toValue (t : EnvTable) : ofValue? t.toValue = some t := by
  have htexts : t.toValue.texts? = some t.entries := by
    unfold toValue Value.texts?
    induction t.entries with
    | nil => rfl
    | cons e rest ih =>
        simp only at ih ⊢
        rw [List.map_cons, List.mapM_cons, ih]
        rfl
  rw [ofValue?, htexts]
  exact congrArg some t.ofList_entries

/-! ### Whole configurations -/

/-- The form of configurations. -/
def Config.form : Form Config where
  names := ["language", "env", "default_groups", "axes", "groups"]
  skippable := ["default_groups"]
  write := toValue
  read? := ofValue?

/-- The parts of a configuration. -/
def Config.parts (c : Config) : List Part := [
  .defaulted "language" defaultLanguage Value.text? (.string c.language) c.language,
  .defaulted "env" .empty EnvTable.ofValue? c.env.toValue c.env,
  .omittable "default_groups" none (fun part => (part.list? Value.text?).map some)
    (c.defaultGroups.map ofTexts) c.defaultGroups,
  .defaulted "axes" [] (Value.list? AxisSource.ofValue?)
    (.array (c.axes.map AxisSource.toValue)) c.axes,
  .required "groups" (Value.list? Group.ofValue?) (.array (c.groups.map Group.toValue)) c.groups]

theorem Config.madeOf (c : Config) : form.MadeOf c c.parts where
  names := rfl
  distinct := by decide
  skippable := by simp [parts, form]
  write := by
    simp only [form, toValue, parts]
    cases c.defaultGroups <;> rfl
  read_iff := by
    intro given
    obtain ⟨language, env, defaultGroups, axes, groups⟩ := c
    simp [form, ofValue?, parts, guard, Option.bind_eq_some_iff]
  sound := by
    rw [parts, List.forall_mem_cons, List.forall_mem_cons, List.forall_mem_cons,
      List.forall_mem_cons, List.forall_mem_singleton]
    exact ⟨Part.defaulted_sound rfl, Part.defaulted_sound c.env.ofValue?_toValue,
      Part.omittable_sound_of_option list?_ofTexts c.defaultGroups,
      Part.defaulted_sound (Value.list?_map AxisSource.ofValue?_toValue c.axes),
      Part.required_sound (Value.list?_map Group.ofValue?_toValue c.groups)⟩

/-- **Nothing is lost by writing a configuration.**  Each of the records that a configuration is made
of is read back as it was, and a field of it is left out exactly when it is one that may be and its
absence reads as the value it has. -/
theorem config_faithful :
    (∀ c : Config, Config.form.Faithful c) ∧ (∀ a : AxisSource, AxisSource.form.Faithful a) ∧
      (∀ g : Group, Group.form.Faithful g) ∧ (∀ t : StepTemplate, StepTemplate.form.Faithful t) ∧
      ∀ c : CommandTemplate, CommandTemplate.form.Faithful c :=
  ⟨fun c => c.madeOf.faithful, fun a => a.madeOf.faithful, fun g => g.madeOf.faithful,
    fun t => t.madeOf.faithful, fun c => c.madeOf.faithful⟩

namespace Sample

/-- A configuration in which every field has the value that its absence reads as, if it has one. -/
def plain : Config where
  language := Config.defaultLanguage
  env := .empty
  defaultGroups := none
  axes := []
  groups := []

/-- Not all that could be left out is: the language is written, and without it the configuration
would be read as the same. -/
theorem plain_language_written :
    ¬ ∀ name ∈ Config.form.names, name ∉ plain.toValue.keys ↔
      Config.ofValue? (plain.toValue.without name) = some plain := by
  have hwritten : "language" ∈ plain.toValue.keys := by decide
  have hreads : Config.ofValue? (plain.toValue.without "language") = some plain := by rfl
  intro h
  exact (h "language" (by decide)).2 hreads hwritten

end Sample

end CheckMatrix
