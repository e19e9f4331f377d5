/-
Axes of the matrix.

An axis is a name with a list of values.  The values are pairwise different, and the type says so:
the only way to get one from a plain list is `Axis.ofValues`, which refuses the first value that
is listed twice.
-/
import CheckMatrix.ConfigError
import CheckMatrix.Distinct

namespace CheckMatrix

/-- A named list of values without repetition. -/
structure Axis where
  name : String
  values : List String
  distinct : values.Nodup
  deriving DecidableEq

namespace Axis

/-- The axis with the given values, unless one of them is listed twice. -/
def ofValues (name : String) (values : List String) : Except ConfigError Axis :=
  match h : firstRepeat? [] values with
  | some value => .error (.duplicateAxisValue name value)
  | none => .ok ⟨name, values, firstRepeat?_nil_eq_none_iff.1 h⟩

/-- An axis is made exactly from values without repetition. -/
theorem ofValues_eq_ok_iff {name : String} {values : List String} {axis : Axis} :
    ofValues name values = .ok axis ↔ axis.name = name ∧ axis.values = values := by
  obtain ⟨axisName, axisValues, hdistinct⟩ := axis
  unfold ofValues
  split
  · rename_i value h
    have hnot : ¬ values.Nodup := by
      rw [← firstRepeat?_nil_eq_none_iff, h]
      simp
    constructor
    · intro hfalse
      cases hfalse
    · rintro ⟨-, rfl⟩
      exact absurd hdistinct hnot
  · rename_i h
    constructor
    · intro heq
      cases heq
      exact ⟨rfl, rfl⟩
    · rintro ⟨rfl, rfl⟩
      rfl

end Axis

end CheckMatrix
