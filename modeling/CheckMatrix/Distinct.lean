/-
Lists without repetition.

`firstRepeat?` finds the first element that occurred before; there is none exactly when the list
has no duplicates, which is what makes a checked list carry the proof.  `keepFirst` does not
refuse but leaves out what an earlier element is the same as; what it keeps stands for the whole
list (`keepFirst_keeps`).
-/
namespace CheckMatrix

/-- The first element of a list that is among `seen` or occurred before. -/
def firstRepeat? {α : Type} [DecidableEq α] (seen : List α) : List α → Option α
  | [] => none
  | x :: rest => if x ∈ seen then some x else firstRepeat? (x :: seen) rest

theorem firstRepeat?_eq_none_iff {α : Type} [DecidableEq α] {seen xs : List α} :
    firstRepeat? seen xs = none ↔ xs.Nodup ∧ ∀ x ∈ xs, x ∉ seen := by
  induction xs generalizing seen with
  | nil => simp [firstRepeat?]
  | cons x rest ih =>
    unfold firstRepeat?
    split
    · rename_i h
      simp [h]
    · rename_i h
      rw [ih]
      constructor
      · rintro ⟨hnodup, hfresh⟩
        refine ⟨List.nodup_cons.2 ⟨fun hx => hfresh x hx (by simp), hnodup⟩, ?_⟩
        intro y hy
        rcases List.mem_cons.1 hy with rfl | hy
        · exact h
        · exact fun hseen => hfresh y hy (by simp [hseen])
      · rintro ⟨hnodup, hfresh⟩
        obtain ⟨hx, hrest⟩ := List.nodup_cons.1 hnodup
        refine ⟨hrest, fun y hy hseen => ?_⟩
        rcases List.mem_cons.1 hseen with rfl | hseen
        · exact hx hy
        · exact hfresh y (by simp [hy]) hseen

/-- Nothing repeats exactly when the list has no duplicates. -/
theorem firstRepeat?_nil_eq_none_iff {α : Type} [DecidableEq α] {xs : List α} :
    firstRepeat? [] xs = none ↔ xs.Nodup := by
  simp [firstRepeat?_eq_none_iff]

/-- What repeats first is seen before it, and nothing in front of it is. -/
theorem firstRepeat?_eq_some_iff {α : Type} [DecidableEq α] {seen xs : List α} {x : α} :
    firstRepeat? seen xs = some x ↔
      ∃ before after, xs = before ++ x :: after ∧ (before.Nodup ∧ ∀ y ∈ before, y ∉ seen) ∧
        (x ∈ seen ∨ x ∈ before) := by
  induction xs generalizing seen with
  | nil => simp [firstRepeat?]
  | cons y rest ih =>
    unfold firstRepeat?
    split
    · rename_i hseen
      constructor
      · intro h
        cases h
        exact ⟨[], rest, rfl, ⟨.nil, List.forall_mem_nil _⟩, .inl hseen⟩
      · rintro ⟨before, after, heq, ⟨-, hfresh⟩, -⟩
        cases before with
        | nil =>
          cases heq
          rfl
        | cons z before =>
          cases heq
          exact absurd hseen (hfresh y List.mem_cons_self)
    · rename_i hfirst
      rw [ih]
      constructor
      · rintro ⟨before, after, rfl, ⟨hnodup, hfresh⟩, hx⟩
        have hy : y ∉ before := fun hmem => hfresh y hmem List.mem_cons_self
        refine ⟨y :: before, after, rfl, ⟨List.nodup_cons.2 ⟨hy, hnodup⟩, ?_⟩, ?_⟩
        · refine List.forall_mem_cons.2 ⟨hfirst, fun z hz hseen => ?_⟩
          exact hfresh z hz (List.mem_cons_of_mem y hseen)
        · rcases hx with hx | hx
          · rcases List.mem_cons.1 hx with rfl | hx
            · exact .inr List.mem_cons_self
            · exact .inl hx
          · exact .inr (List.mem_cons_of_mem y hx)
      · rintro ⟨before, after, heq, ⟨hnodup, hfresh⟩, hx⟩
        cases before with
        | nil =>
          cases heq
          exact absurd (hx.resolve_right List.not_mem_nil) hfirst
        | cons z before =>
          cases heq
          obtain ⟨hy, hnodup⟩ := List.nodup_cons.1 hnodup
          refine ⟨before, after, rfl, ⟨hnodup, fun z hz hseen => ?_⟩, ?_⟩
          · rcases List.mem_cons.1 hseen with rfl | hseen
            · exact hy hz
            · exact hfresh z (List.mem_cons_of_mem y hz) hseen
          · rcases hx with hx | hx
            · exact .inl (List.mem_cons_of_mem y hx)
            · rcases List.mem_cons.1 hx with rfl | hx
              · exact .inl List.mem_cons_self
              · exact .inr hx

/-- Adds an element to a list unless the list has one that is the same. -/
def addNew {α : Type} (same : α → α → Bool) (kept : List α) (x : α) : List α :=
  if kept.any (same · x) then kept else kept ++ [x]

/-- The elements of a list without those that an earlier one is the same as. -/
def keepFirst {α : Type} (same : α → α → Bool) (xs : List α) : List α :=
  xs.foldl (addNew same) []

/-- What is kept of a list: nothing else, no two that are the same, and for each element one that
is the same. -/
structure Keeps {α : Type} (same : α → α → Bool) (xs kept : List α) : Prop where
  only : ∀ y ∈ kept, y ∈ xs
  apart : kept.Pairwise fun x y => same x y = false
  all : ∀ x ∈ xs, ∃ y ∈ kept, same y x = true

section Keeping

variable {α : Type} {same : α → α → Bool}

theorem Keeps.addNew {xs kept : List α} (h : Keeps same xs kept) {x : α} (hsame : same x x = true) :
    Keeps same (xs ++ [x]) (addNew same kept x) := by
  unfold CheckMatrix.addNew
  by_cases hany : kept.any (same · x) = true
  · rw [if_pos hany]
    refine ⟨fun y hy => List.mem_append_left _ (h.only y hy), h.apart, fun z hz => ?_⟩
    rcases List.mem_append.1 hz with hz | hz
    · exact h.all z hz
    · obtain ⟨y, hy, hyx⟩ := List.any_eq_true.1 hany
      exact ⟨y, hy, List.mem_singleton.1 hz ▸ hyx⟩
  · rw [if_neg hany]
    refine ⟨fun y hy => ?_, ?_, fun z hz => ?_⟩
    · rcases List.mem_append.1 hy with hy | hy
      · exact List.mem_append_left _ (h.only y hy)
      · exact List.mem_append_right _ hy
    · refine List.pairwise_append.2 ⟨h.apart, List.pairwise_singleton _ _, fun y hy z hz => ?_⟩
      rw [List.mem_singleton.1 hz]
      exact Bool.eq_false_iff.2 fun hyx => hany (List.any_eq_true.2 ⟨y, hy, hyx⟩)
    · rcases List.mem_append.1 hz with hz | hz
      · obtain ⟨y, hy, hyz⟩ := h.all z hz
        exact ⟨y, List.mem_append_left _ hy, hyz⟩
      · exact ⟨x, by simp, List.mem_singleton.1 hz ▸ hsame⟩

theorem Keeps.foldl (hsame : ∀ x, same x x = true) (ys : List α) :
    ∀ {xs kept : List α}, Keeps same xs kept →
      Keeps same (xs ++ ys) (ys.foldl (CheckMatrix.addNew same) kept) := by
  induction ys with
  | nil =>
    intro xs kept h
    rw [List.append_nil]
    exact h
  | cons y rest ih =>
    intro xs kept h
    have hrest := ih (h.addNew (hsame y))
    rw [List.append_assoc] at hrest
    exact hrest

/-- The first of those that are the same is kept. -/
theorem keepFirst_keeps (hsame : ∀ x, same x x = true) (xs : List α) :
    Keeps same xs (keepFirst same xs) := by
  have hnothing : Keeps same [] [] := ⟨by simp, .nil, by simp⟩
  exact Keeps.foldl hsame xs hnothing

/-- Everything is kept of a list without two that are the same. -/
theorem foldl_addNew_of_apart {ys : List α} :
    ∀ {kept : List α}, ((kept ++ ys).Pairwise fun x y => same x y = false) →
      ys.foldl (addNew same) kept = kept ++ ys := by
  induction ys with
  | nil =>
    intro kept _
    rw [List.append_nil]
    rfl
  | cons y rest ih =>
    intro kept h
    have hnew : addNew same kept y = kept ++ [y] := by
      refine if_neg fun hany => ?_
      obtain ⟨x, hx, hxy⟩ := List.any_eq_true.1 hany
      rw [(List.pairwise_append.1 h).2.2 x hx y (by simp)] at hxy
      cases hxy
    have hsplit : kept ++ y :: rest = (kept ++ [y]) ++ rest := by simp
    rw [List.foldl_cons, hnew, hsplit]
    exact ih (hsplit ▸ h)

end Keeping

end CheckMatrix
