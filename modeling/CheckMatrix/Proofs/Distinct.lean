/-
What stands first in a list.

An element stands first if no earlier one is the same.  Told by position (`firsts`), this says
nothing about how a list is gone through; read from the end of the list, one element at a time, it is
what programs do that keep an element unless they have one that is the same (`firsts_concat`,
`keepFirst_eq_firsts`).
-/
import CheckMatrix.Distinct
import Mathlib.Data.List.Basic
import Mathlib.Data.List.Induction

namespace CheckMatrix

variable {α : Type} {same : α → α → Bool}

/-- The elements of a list, in order, that are not the same as an earlier one. -/
def firsts (same : α → α → Bool) (xs : List α) : List α :=
  (xs.zipIdx.filter fun (x, i) => !(xs.take i).any (same · x)).map Prod.fst

/-- What comes last in a list stands first if it is new. -/
theorem firsts_concat (xs : List α) (x : α) :
    firsts same (xs ++ [x]) = firsts same xs ++ if xs.any (same · x) then [] else [x] := by
  have hfront : xs.zipIdx.filter (fun (y, i) => !((xs ++ [x]).take i).any (same · y)) =
      xs.zipIdx.filter fun (y, i) => !(xs.take i).any (same · y) := by
    refine List.filter_congr ?_
    rintro ⟨y, i⟩ hy
    have hi : i ≤ xs.length := Nat.le_of_lt (List.snd_lt_of_mem_zipIdx hy)
    simp only [List.take_append_of_le_length hi]
  unfold firsts
  rw [List.zipIdx_append, List.filter_append, List.map_append, hfront]
  cases h : xs.any (same · x) <;> simp [h]

/-- Where being the same is an equivalence, what is kept of a list are its first elements. -/
theorem keepFirst_eq_firsts (hrefl : ∀ x, same x x = true)
    (htrans : ∀ x y z, same x y = true → same y z = true → same x z = true) (xs : List α) :
    keepFirst same xs = firsts same xs := by
  induction xs using List.reverseRecOn with
  | nil => rfl
  | append_singleton xs x ih =>
      have hkeeps := keepFirst_keeps hrefl xs
      have hany : (keepFirst same xs).any (same · x) = xs.any (same · x) := by
        rw [Bool.eq_iff_iff, List.any_eq_true, List.any_eq_true]
        constructor
        · rintro ⟨y, hy, hyx⟩
          exact ⟨y, hkeeps.only y hy, hyx⟩
        · rintro ⟨y, hy, hyx⟩
          obtain ⟨z, hz, hzy⟩ := hkeeps.all y hy
          exact ⟨z, hz, htrans z y x hzy hyx⟩
      rw [firsts_concat, ← ih, ← hany, keepFirst, List.foldl_concat, ← keepFirst, addNew]
      split
      · rw [List.append_nil]
      · rfl

end CheckMatrix
