/-
The cursor meets every combination once, in order.

A cursor moves over the values of some axes like the wheels of a counter, and what it meets is
compared with the product of the lists of values, written down by recursion on the axes.  The
invariant is the number of moves made so far: behind `k` moves the place of an axis is the digit of
`k` to the base given by the number of its values, the digits of the last axis counting ones
(`advance_digits`).  So a walk over as many cursors as there are combinations is a walk over the
numbers below that, and cutting these at the multiples of the number of combinations of all axes but
the first gives the recursion of the product (`walk_bindings`).
-/
import CheckMatrix.Expansion
import Mathlib.Data.List.Range
import Mathlib.Data.Nat.ModEq

namespace CheckMatrix

/-- The combinations of the values of some named lists: the first list changes last. -/
def bindingsOver : List (String × List String) → List Binding
  | [] => [[]]
  | (name, values) :: rest =>
    values.flatMap fun value => (bindingsOver rest).map ((name, value) :: ·)

/-- Every axis has a value. -/
def Filled (axes : List Axis) : Prop :=
  ∀ axis ∈ axes, axis.values ≠ []

theorem Filled.tail {axis : Axis} {rest : List Axis} (h : Filled (axis :: rest)) : Filled rest :=
  fun other hother => h other (List.mem_cons_of_mem axis hother)

theorem combinations_cons (axis : Axis) (rest : List Axis) :
    combinations (axis :: rest) = axis.values.length * combinations rest := rfl

theorem combinations_pos {axes : List Axis} (h : Filled axes) : 0 < combinations axes := by
  induction axes with
  | nil => exact Nat.one_pos
  | cons axis rest ih =>
      have hlength := List.length_pos_iff.2 (h axis List.mem_cons_self)
      exact Nat.mul_pos hlength (ih h.tail)

/-- The numbers below a product, cut at the multiples of the second factor. -/
theorem range_mul (n m : Nat) :
    List.range (n * m) = (List.range n).flatMap fun i => (List.range m).map (i * m + ·) := by
  induction n with
  | zero => simp
  | succ n ih =>
      rw [Nat.succ_mul, List.range_add, ih, List.range_succ, List.flatMap_append]
      simp

namespace Cursor

/-- The digits of a number to the bases given by the numbers of values of some axes. -/
def digits : List Axis → Nat → Cursor
  | [], _ => []
  | axis :: rest, k => (k / combinations rest % axis.values.length) :: digits rest k

theorem digits_zero (axes : List Axis) : digits axes 0 = first axes := by
  induction axes with
  | nil => rfl
  | cons axis rest ih =>
      have hzero : 0 / combinations rest % axis.values.length = 0 := by
        rw [Nat.zero_div, Nat.zero_mod]
      rw [digits, hzero, ih]
      rfl

/-- The digits come round behind the number of all combinations. -/
theorem digits_add_mul {axes : List Axis} (h : Filled axes) :
    ∀ c k : Nat, digits axes (c * combinations axes + k) = digits axes k := by
  induction axes with
  | nil => exact fun c k => rfl
  | cons axis rest ih =>
      intro c k
      have hpos := combinations_pos h.tail
      have hsplit : c * combinations (axis :: rest) + k =
          c * axis.values.length * combinations rest + k := by
        rw [combinations_cons, Nat.mul_assoc]
      have hplace : (c * axis.values.length * combinations rest + k) / combinations rest =
          c * axis.values.length + k / combinations rest := by
        rw [Nat.add_comm, Nat.add_mul_div_right _ _ hpos, Nat.add_comm]
      rw [digits, digits, hsplit, hplace, ih h.tail, Nat.mul_add_mod_self_right]

/-- A digit to the base `n` is the next one when it is moved on, or zero with one to carry. -/
theorem succ_mod_with_carry {n : Nat} (hn : 0 < n) (q : Nat) :
    (if q % n + 1 < n then (q % n + 1, false) else (0, true)) =
      ((q + 1) % n, decide (n ∣ q + 1)) := by
  have hmod : (q + 1) % n = (q % n + 1) % n := (Nat.mod_add_mod q n 1).symm
  have hlt := Nat.mod_lt q hn
  by_cases hnext : q % n + 1 < n
  · have hplace : (q + 1) % n = q % n + 1 := by rw [hmod, Nat.mod_eq_of_lt hnext]
    have hnot : ¬ n ∣ q + 1 := by
      rw [Nat.dvd_iff_mod_eq_zero, hplace]
      exact Nat.succ_ne_zero _
    rw [if_pos hnext, hplace, decide_eq_false hnot]
  · have hround : q % n + 1 = n := by omega
    have hplace : (q + 1) % n = 0 := by rw [hmod, hround, Nat.mod_self]
    rw [if_neg hnext, hplace, decide_eq_true (Nat.dvd_of_mod_eq_zero hplace)]

/-- **Moving on by one counts on by one.**  The cursor comes round exactly at the multiples of the
number of combinations. -/
theorem advance_digits {axes : List Axis} (h : Filled axes) (k : Nat) :
    advance axes (digits axes k) = (digits axes (k + 1), decide (combinations axes ∣ k + 1)) := by
  induction axes with
  | nil =>
      have hone : combinations [] ∣ k + 1 := Nat.one_dvd _
      rw [decide_eq_true hone]
      rfl
  | cons axis rest ih =>
      have hdvd : combinations (axis :: rest) ∣ k + 1 ↔
          combinations rest ∣ k + 1 ∧ axis.values.length ∣ (k + 1) / combinations rest := by
        rw [combinations_cons, Nat.mul_comm]
        constructor
        · intro hall
          have hrest := Nat.dvd_trans (Nat.dvd_mul_right _ _) hall
          exact ⟨hrest, (Nat.dvd_div_iff_mul_dvd hrest).2 hall⟩
        · rintro ⟨hrest, hplace⟩
          exact (Nat.dvd_div_iff_mul_dvd hrest).1 hplace
      rw [digits, digits, advance, ih h.tail]
      by_cases hround : combinations rest ∣ k + 1
      · -- the axes behind come round, so this one moves
        have hnext : (k + 1) / combinations rest = k / combinations rest + 1 :=
          Nat.succ_div_of_dvd hround
        have hturn := succ_mod_with_carry (List.length_pos_iff.2 (h axis List.mem_cons_self))
          (k / combinations rest)
        rw [← hnext] at hturn
        rw [decide_eq_true hround]
        simp only [hdvd, hround, true_and]
        split at hturn
        · rename_i hlast
          obtain ⟨hplace, hcarry⟩ := Prod.mk.inj hturn
          rw [if_pos hlast, hplace, hcarry]
        · rename_i hlast
          obtain ⟨hplace, hcarry⟩ := Prod.mk.inj hturn
          rw [if_neg hlast, ← hplace, ← hcarry]
      · have hstays : (k + 1) / combinations rest = k / combinations rest :=
          Nat.succ_div_of_not_dvd hround
        rw [decide_eq_false hround]
        simp only [hdvd, hround, false_and, decide_false, hstays]

/-- The cursors of a walk are the digits of the numbers that are counted through. -/
theorem walk_digits {axes : List Axis} (h : Filled axes) (count : Nat) :
    ∀ k : Nat, walk axes count (digits axes k) = (List.range' k count).map (digits axes) := by
  induction count with
  | zero => exact fun k => rfl
  | succ count ih =>
      intro k
      rw [walk, advance_digits h, ih, List.range'_succ, List.map_cons]

/-- The values at the digits of the numbers below the number of combinations. -/
theorem range_bindings {axes : List Axis} (h : Filled axes) :
    (List.range (combinations axes)).map (fun k => binding axes (digits axes k)) =
      bindingsOver (axes.map fun axis => (axis.name, axis.values)) := by
  induction axes with
  | nil => rfl
  | cons axis rest ih =>
      have hpos := combinations_pos h.tail
      have hblock : ∀ i ∈ List.range axis.values.length,
          (List.range (combinations rest)).map (fun j =>
              binding (axis :: rest) (digits (axis :: rest) (i * combinations rest + j))) =
            (bindingsOver (rest.map fun axis => (axis.name, axis.values))).map
              ((axis.name, axis.values.getD i "") :: ·) := by
        intro i hi
        rw [← ih h.tail, List.map_map]
        refine List.map_congr_left fun j hj => ?_
        have hplace : (i * combinations rest + j) / combinations rest % axis.values.length = i := by
          rw [Nat.add_comm, Nat.add_mul_div_right _ _ hpos,
            Nat.div_eq_of_lt (List.mem_range.1 hj), Nat.zero_add,
            Nat.mod_eq_of_lt (List.mem_range.1 hi)]
        rw [digits, hplace, digits_add_mul h.tail, binding]
        rfl
      have hvalues : (List.range axis.values.length).map (axis.values.getD · "") = axis.values := by
        refine List.ext_getElem (by simp) fun i hi hi' => ?_
        simp [hi']
      rw [combinations_cons, range_mul, List.map_flatMap]
      simp only [List.map_map, Function.comp_def]
      rw [List.flatMap_congr hblock, List.map_cons, bindingsOver]
      conv_rhs => rw [← hvalues]
      rw [List.flatMap_map]

/-- **A walk over all combinations meets each of them once, the first axis slowest.** -/
theorem walk_bindings {axes : List Axis} (h : Filled axes) :
    (walk axes (combinations axes) (first axes)).map (binding axes) =
      bindingsOver (axes.map fun axis => (axis.name, axis.values)) := by
  rw [← digits_zero, walk_digits h, ← List.range_eq_range', List.map_map]
  exact range_bindings h

end Cursor

end CheckMatrix
