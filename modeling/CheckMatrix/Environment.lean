/-
Where variables come from.

A configuration has a table of variables, kept in ascending order of their names; the process that
plans a run has variables of its own.  A variable is looked up in the table first.  The home
directory always comes from the process.
-/
namespace CheckMatrix

/-! ### Tables of variables -/

/-- Puts a variable into an ordered list, replacing an older value. -/
def insertVariable (name value : String) : List (String × String) → List (String × String)
  | [] => [(name, value)]
  | (other, old) :: rest =>
    if name < other then (name, value) :: (other, old) :: rest
    else if name = other then (name, value) :: rest
    else (other, old) :: insertVariable name value rest

theorem mem_insertVariable {name value : String} {entries : List (String × String)}
    {e : String × String} (h : e ∈ insertVariable name value entries) :
    e = (name, value) ∨ e ∈ entries := by
  induction entries with
  | nil => simpa [insertVariable] using h
  | cons first rest ih =>
    obtain ⟨other, old⟩ := first
    unfold insertVariable at h
    split at h
    · rcases List.mem_cons.1 h with rfl | h
      · exact Or.inl rfl
      · exact Or.inr h
    · split at h
      · rcases List.mem_cons.1 h with rfl | h
        · exact Or.inl rfl
        · exact Or.inr (by simp [h])
      · rcases List.mem_cons.1 h with rfl | h
        · exact Or.inr (by simp)
        · rcases ih h with rfl | h
          · exact Or.inl rfl
          · exact Or.inr (by simp [h])

theorem pairwise_insertVariable {name value : String} {entries : List (String × String)}
    (h : entries.Pairwise fun a b => a.1 < b.1) :
    (insertVariable name value entries).Pairwise fun a b => a.1 < b.1 := by
  induction entries with
  | nil => simp [insertVariable]
  | cons first rest ih =>
    obtain ⟨other, old⟩ := first
    obtain ⟨hfirst, hrest⟩ := List.pairwise_cons.1 h
    unfold insertVariable
    split
    · rename_i hlt
      refine List.pairwise_cons.2 ⟨fun e he => ?_, h⟩
      rcases List.mem_cons.1 he with rfl | he
      · exact hlt
      · exact String.lt_trans hlt (hfirst e he)
    · rename_i hnlt
      split
      · rename_i heq
        subst heq
        exact List.pairwise_cons.2 ⟨hfirst, hrest⟩
      · rename_i hne
        refine List.pairwise_cons.2 ⟨fun e he => ?_, ih hrest⟩
        rcases mem_insertVariable he with rfl | he
        · rcases String.le_total name other with hle | hle
          · exact absurd (String.le_antisymm hle (String.not_lt.1 hnlt)) hne
          · exact String.not_le.1 fun hle' => hne (String.le_antisymm hle' hle)
        · exact hfirst e he

/-- A table of variables in ascending order of their names, each at most once. -/
structure EnvTable where
  entries : List (String × String)
  sorted : entries.Pairwise fun a b => a.1 < b.1
  deriving DecidableEq

namespace EnvTable

/-- The table without variables. -/
def empty : EnvTable := ⟨[], .nil⟩

instance : Inhabited EnvTable := ⟨empty⟩

/-- The table with one variable set. -/
def insert (t : EnvTable) (name value : String) : EnvTable :=
  ⟨insertVariable name value t.entries, pairwise_insertVariable t.sorted⟩

/-- The table that a list of settings makes; later ones win. -/
def ofList (settings : List (String × String)) : EnvTable :=
  settings.foldl (fun t e => t.insert e.1 e.2) empty

/-- The value of a variable. -/
def get? (t : EnvTable) (name : String) : Option String :=
  t.entries.lookup name

end EnvTable

/-! ### The environment of a plan -/

/-- The variables of the process, the first setting of a name counting, and the home directory
that the account has when the process names none. -/
structure ProcessEnv where
  vars : List (String × String)
  accountHome : Option String
  deriving DecidableEq, Repr

namespace ProcessEnv

/-- The value that a setting, written with an equals sign behind its name, has under a name.  The
sign that counts is the one behind the name that is asked for, so that a value with an equals sign
in it can be asked for under a longer name. -/
def valueUnder? (name : String) (setting : String × String) : Option String :=
  let asked := name.toList ++ ['=']
  let written := setting.1.toList ++ '=' :: setting.2.toList
  if asked.isPrefixOf written then some (String.ofList (written.drop asked.length)) else none

/-- The value of a variable of the process; the empty name has none. -/
def get? (p : ProcessEnv) (name : String) : Option String :=
  if name.isEmpty then none else p.vars.findSome? (valueUnder? name)

/-- The home directory: the variable for it, unless it is missing or empty. -/
def home? (p : ProcessEnv) : Option String :=
  match p.get? "HOME" with
  | some dir => if dir.isEmpty then p.accountHome else some dir
  | none => p.accountHome

end ProcessEnv

/-- What variables in a configuration are looked up in. -/
structure Environment where
  table : EnvTable
  process : ProcessEnv

/-- The value of a variable: the table shadows the process. -/
def Environment.lookup (env : Environment) (name : String) : Option String :=
  (env.table.get? name).or (env.process.get? name)

end CheckMatrix
