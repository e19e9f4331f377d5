/-
Computations that may be refused.

Planning is a chain of checks, each of which may end it with an error.  What a successful chain did
is read off its result one link at a time: `bind_eq_ok_iff` takes two computations apart, and
`mapM_eq_ok_iff` takes apart a computation on every element of a list, the results standing beside
the elements in order.  Two lists that stand beside a third one stand beside each other
(`forall₂_trans`).

What refused a chain is read off in the same way.  The first link that is refused settles the reason
(`refusal?_bind`), and on a list it is the first element on which the computation is refused
(`mapM_eq_error_iff`).

Two chains are compared the same way.  They stay beside each other (`Beside`) when every link of the
one does what the link of the other does, or is refused for a like reason.
-/
import CheckMatrix.ConfigError
import Mathlib.Data.List.Forall2

namespace CheckMatrix

variable {ε α β γ : Type}

theorem bind_eq_ok_iff {x : Except ε α} {f : α → Except ε β} {b : β} :
    x >>= f = .ok b ↔ ∃ a, x = .ok a ∧ f a = .ok b := by
  cases x with
  | error e =>
      constructor
      · intro h
        cases h
      · rintro ⟨a, ha, -⟩
        cases ha
  | ok a =>
      constructor
      · intro h
        exact ⟨a, rfl, h⟩
      · rintro ⟨a', ha, h⟩
        cases ha
        exact h

/-- Behind a success the chain goes on, -/
theorem ok_bind (a : α) (f : α → Except ε β) : Except.ok a >>= f = f a := rfl

/-- and behind a refusal it is over. -/
theorem error_bind (e : ε) (f : α → Except ε β) : Except.error e >>= f = .error e := rfl

theorem map_eq_ok_iff {x : Except ε α} {f : α → β} {b : β} :
    x.map f = .ok b ↔ ∃ a, x = .ok a ∧ f a = b := by
  cases x with
  | error e => simp [Except.map]
  | ok a => simp [Except.map]

theorem pure_eq_ok_iff {a b : α} : (pure a : Except ε α) = .ok b ↔ a = b :=
  Except.ok.injEq a b ▸ Iff.rfl

/-- A result that is there is the result of a success. -/
theorem eq_ok_of_toOption {x : Except ε α} {a : α} (h : x.toOption = some a) : x = .ok a := by
  cases x with
  | error e => cases h
  | ok b => exact congrArg Except.ok (Option.some.inj h)

/-- The reason why a computation is refused. -/
def refusal? : Except ε α → Option ε
  | .error e => some e
  | .ok _ => none

theorem eq_error_of_refusal? {x : Except ε α} {e : ε} (h : refusal? x = some e) : x = .error e := by
  cases x with
  | error e' => exact congrArg Except.error (Option.some.inj h)
  | ok a => cases h

/-- A computation on a list succeeds exactly when it succeeds on every element. -/
theorem mapM_eq_ok_iff {f : α → Except ε β} {xs : List α} {ys : List β} :
    xs.mapM f = .ok ys ↔ List.Forall₂ (fun x y => f x = .ok y) xs ys := by
  induction xs generalizing ys with
  | nil =>
      rw [List.mapM_nil, pure_eq_ok_iff, List.forall₂_nil_left_iff]
      exact eq_comm
  | cons x rest ih =>
      rw [List.mapM_cons, bind_eq_ok_iff, List.forall₂_cons_left_iff]
      constructor
      · rintro ⟨y, hy, h⟩
        obtain ⟨zs, hzs, h⟩ := bind_eq_ok_iff.1 h
        exact ⟨y, zs, hy, ih.1 hzs, (pure_eq_ok_iff.1 h).symm⟩
      · rintro ⟨y, zs, hy, hzs, rfl⟩
        exact ⟨y, hy, bind_eq_ok_iff.2 ⟨zs, ih.2 hzs, rfl⟩⟩

/-- A computation on an optional value succeeds exactly when it succeeds on the value, if any. -/
theorem optionMapM_eq_ok_iff {f : α → Except ε β} {x : Option α} {y : Option β} :
    x.mapM f = .ok y ↔ Option.Rel (fun a b => f a = .ok b) x y := by
  cases x with
  | none =>
      constructor
      · intro h
        cases h
        exact .none
      · intro h
        cases h
        rfl
  | some a =>
      rw [Option.mapM_some, map_eq_pure_bind, bind_eq_ok_iff]
      constructor
      · rintro ⟨b, hb, h⟩
        cases h
        exact .some hb
      · intro h
        cases h with
        | some hb => exact ⟨_, hb, rfl⟩

/-- Results beside each other stay so under functions that keep them there. -/
theorem optionRel_map {δ : Type} {R : α → β → Prop} {S : γ → δ → Prop} {f : α → γ} {g : β → δ}
    (h : ∀ a b, R a b → S (f a) (g b)) {x : Option α} {y : Option β} (hR : Option.Rel R x y) :
    Option.Rel S (x.map f) (y.map g) := by
  cases hR with
  | none => exact .none
  | some hab => exact .some (h _ _ hab)

theorem forall₂_trans {R : α → β → Prop} {S : β → γ → Prop} {T : α → γ → Prop}
    (h : ∀ x y z, R x y → S y z → T x z) {xs : List α} {ys : List β} {zs : List γ}
    (hR : List.Forall₂ R xs ys) (hS : List.Forall₂ S ys zs) : List.Forall₂ T xs zs := by
  induction hR generalizing zs with
  | nil =>
      cases hS
      exact .nil
  | cons hxy _ ih =>
      cases hS with
      | cons hyz hrest => exact .cons (h _ _ _ hxy hyz) (ih hrest)

/-- What stands beside a list stands beside its elements. -/
theorem exists_of_mem_forall₂ {R : α → β → Prop} {xs : List α} {ys : List β}
    (h : List.Forall₂ R xs ys) {y : β} (hy : y ∈ ys) : ∃ x ∈ xs, R x y := by
  induction h with
  | nil => cases hy
  | @cons x z xs zs hxz _ ih =>
      rcases List.mem_cons.1 hy with rfl | hmem
      · exact ⟨x, List.mem_cons_self, hxz⟩
      · obtain ⟨w, hw, hR⟩ := ih hmem
        exact ⟨w, List.mem_cons_of_mem x hw, hR⟩

theorem map_eq_of_forall₂ {R : α → β → Prop} {f : α → γ} {g : β → γ}
    (hR : ∀ x y, R x y → g y = f x) {xs : List α} {ys : List β} (h : List.Forall₂ R xs ys) :
    ys.map g = xs.map f := by
  rw [← List.forall₂_eq_eq_eq, List.forall₂_map_left_iff, List.forall₂_map_right_iff]
  exact h.flip.imp fun y x hxy => hR x y hxy

/-- Every result on a list is the result on one of its elements. -/
theorem exists_of_mem_mapM {f : α → Except ε β} {xs : List α} {ys : List β}
    (h : xs.mapM f = .ok ys) {y : β} (hy : y ∈ ys) : ∃ x ∈ xs, f x = .ok y :=
  exists_of_mem_forall₂ (mapM_eq_ok_iff.1 h) hy

/-! ### The first refusal -/

theorem bind_eq_error_iff {x : Except ε α} {f : α → Except ε β} {e : ε} :
    x >>= f = .error e ↔ x = .error e ∨ ∃ a, x = .ok a ∧ f a = .error e := by
  cases x with
  | error e' =>
      constructor
      · intro h
        cases h
        exact .inl rfl
      · rintro (h | ⟨a, ha, -⟩)
        · cases h
          rfl
        · cases ha
  | ok a =>
      constructor
      · exact fun h => .inr ⟨a, rfl, h⟩
      · rintro (h | ⟨a', ha, h⟩)
        · cases h
        · cases ha
          exact h

theorem refusal?_eq_some_iff {x : Except ε α} {e : ε} : refusal? x = some e ↔ x = .error e := by
  refine ⟨eq_error_of_refusal?, ?_⟩
  rintro rfl
  rfl

/-- What comes later is asked only when what came before was not refused. -/
theorem refusal?_bind {x : Except ε α} {f : α → Except ε β} {r : Option ε}
    (h : ∀ a, x = .ok a → refusal? (f a) = r) : refusal? (x >>= f) = (refusal? x).or r := by
  cases x with
  | error e => rfl
  | ok a => exact h a rfl

theorem refusal?_mapM_append {f : α → Except ε β} (xs ys : List α) :
    refusal? ((xs ++ ys).mapM f) = (refusal? (xs.mapM f)).or (refusal? (ys.mapM f)) := by
  rw [List.mapM_append]
  refine refusal?_bind fun a _ => ?_
  cases ys.mapM f <;> rfl

/-- An element is the first in a list with a property. -/
def FirstOf (p : α → Prop) (xs : List α) (x : α) : Prop :=
  ∃ before after, xs = before ++ x :: after ∧ (∀ y ∈ before, ¬ p y) ∧ p x

theorem firstOf_cons {p : α → Prop} {x y : α} {rest : List α} :
    FirstOf p (x :: rest) y ↔ p x ∧ y = x ∨ ¬ p x ∧ FirstOf p rest y := by
  constructor
  · rintro ⟨before, after, heq, hbefore, hy⟩
    cases before with
    | nil =>
        cases heq
        exact .inl ⟨hy, rfl⟩
    | cons z before =>
        cases heq
        have hrest := fun w hw => hbefore w (List.mem_cons_of_mem x hw)
        exact .inr ⟨hbefore x List.mem_cons_self, before, after, rfl, hrest, hy⟩
  · rintro (⟨hx, rfl⟩ | ⟨hx, before, after, rfl, hbefore, hy⟩)
    · exact ⟨[], rest, rfl, List.forall_mem_nil _, hx⟩
    · exact ⟨x :: before, after, rfl, List.forall_mem_cons.2 ⟨hx, hbefore⟩, hy⟩

theorem FirstOf.mem {p : α → Prop} {xs : List α} {x : α} (h : FirstOf p xs x) : x ∈ xs := by
  obtain ⟨before, after, rfl, -⟩ := h
  simp

theorem FirstOf.holds {p : α → Prop} {xs : List α} {x : α} (h : FirstOf p xs x) : p x := by
  obtain ⟨before, after, -, -, hx⟩ := h
  exact hx

theorem exists_firstOf {p : α → Prop} {xs : List α} (h : ∃ x ∈ xs, p x) : ∃ x, FirstOf p xs x := by
  induction xs with
  | nil => simp at h
  | cons x rest ih =>
      by_cases hx : p x
      · exact ⟨x, firstOf_cons.2 (.inl ⟨hx, rfl⟩)⟩
      · obtain ⟨y, hy⟩ := ih (by simpa [hx] using h)
        exact ⟨y, firstOf_cons.2 (.inr ⟨hx, hy⟩)⟩

theorem firstOf_iff_find? {p : α → Prop} {test : α → Bool} (h : ∀ x, test x = true ↔ p x)
    {xs : List α} {x : α} : FirstOf p xs x ↔ xs.find? test = some x := by
  rw [List.find?_eq_some_iff_append, h]
  constructor
  · rintro ⟨before, after, heq, hbefore, hx⟩
    exact ⟨hx, before, after, heq, fun y hy => by simpa [← h] using hbefore y hy⟩
  · rintro ⟨hx, before, after, heq, hbefore⟩
    exact ⟨before, after, heq, fun y hy => by simpa [← h] using hbefore y hy, hx⟩

/-- A computation on a list is refused for the first element on which it is refused. -/
theorem mapM_eq_error_iff {f : α → Except ε β} {p : α → Prop}
    (hp : ∀ x, p x ↔ ∃ e, f x = .error e) {xs : List α} {e : ε} :
    xs.mapM f = .error e ↔ ∃ x, FirstOf p xs x ∧ f x = .error e := by
  induction xs with
  | nil =>
      constructor
      · intro h
        cases h
      · rintro ⟨x, ⟨before, after, heq, -⟩, -⟩
        cases before <;> cases heq
  | cons x rest ih =>
      rw [List.mapM_cons, bind_eq_error_iff]
      constructor
      · rintro (h | ⟨y, hy, h⟩)
        · exact ⟨x, firstOf_cons.2 (.inl ⟨(hp x).2 ⟨e, h⟩, rfl⟩), h⟩
        · obtain h | ⟨ys, -, h⟩ := bind_eq_error_iff.1 h
          · obtain ⟨z, hz, hrefused⟩ := ih.1 h
            have hx : ¬ p x := fun hx => by
              obtain ⟨e', he'⟩ := (hp x).1 hx
              rw [hy] at he'
              cases he'
            exact ⟨z, firstOf_cons.2 (.inr ⟨hx, hz⟩), hrefused⟩
          · cases h
      · rintro ⟨z, hfirst, hrefused⟩
        obtain ⟨-, rfl⟩ | ⟨hx, hz⟩ := firstOf_cons.1 hfirst
        · exact .inl hrefused
        · cases hy : f x with
          | error e' => exact absurd ((hp x).2 ⟨e', hy⟩) hx
          | ok y => exact .inr ⟨y, rfl, bind_eq_error_iff.2 (.inl (ih.2 ⟨z, hz, hrefused⟩))⟩

/-! ### Checks on the way to a plan -/

theorem checked_ok (a : α) : checked (.ok a) = .ok a := rfl

theorem checked_error (e : ConfigError) :
    checked (.error e : Except ConfigError α) = .error (.config e) := rfl

theorem checked_eq_ok_iff {x : Except ConfigError α} {a : α} : checked x = .ok a ↔ x = .ok a := by
  cases x <;> simp [checked_ok, checked_error]

theorem checked_eq_error_iff {x : Except ConfigError α} {e : PlanError} :
    checked x = .error e ↔ ∃ cause, x = .error cause ∧ e = .config cause := by
  cases x with
  | error cause => simp [checked_error, eq_comm (a := e)]
  | ok a => simp [checked_ok]

theorem checked_eq_config_iff {x : Except ConfigError α} {cause : ConfigError} :
    checked x = .error (.config cause) ↔ x = .error cause := by
  rw [checked_eq_error_iff]
  simp

theorem checked_mapM_eq_error_iff {f : α → Except ConfigError β} {p : α → Prop}
    (hp : ∀ x, p x ↔ ∃ e, f x = .error e) {xs : List α} {e : PlanError} :
    checked (xs.mapM f) = .error e ↔ ∃ x, FirstOf p xs x ∧ checked (f x) = .error e := by
  simp only [checked_eq_error_iff, mapM_eq_error_iff hp]
  constructor
  · rintro ⟨cause, ⟨x, hx, hf⟩, rfl⟩
    exact ⟨x, hx, cause, hf, rfl⟩
  · rintro ⟨x, hx, cause, hf, rfl⟩
    exact ⟨cause, ⟨x, hx, hf⟩, rfl⟩

/-! ### Two computations beside each other -/

/-- Two computations that have results beside each other, or are refused for reasons that look the
same. -/
inductive Beside (look : ε → ε) (R : α → β → Prop) : Except ε α → Except ε β → Prop
  | refused {e e' : ε} (h : look e = look e') : Beside look R (.error e) (.error e')
  | done {a : α} {b : β} (h : R a b) : Beside look R (.ok a) (.ok b)

namespace Beside

variable {look : ε → ε}

theorem refl (x : Except ε α) : Beside look (· = ·) x x := by
  cases x with
  | error e => exact .refused rfl
  | ok a => exact .done rfl

theorem mapError_eq {x y : Except ε α} (h : Beside look (· = ·) x y) :
    x.mapError look = y.mapError look := by
  cases h with
  | refused h => exact congrArg Except.error h
  | done h => exact congrArg Except.ok h

/-- Checks beside each other stay so on the way to a plan. -/
theorem checked {look : ConfigError → ConfigError} {shown : PlanError → PlanError}
    (hlook : ∀ e, shown (.config e) = .config (look e)) {R : α → β → Prop}
    {x : Except ConfigError α} {y : Except ConfigError β} (h : Beside look R x y) :
    Beside shown R (checked x) (checked y) := by
  cases h with
  | refused h => exact .refused (by rw [hlook, hlook, h])
  | done h => exact .done h

theorem bind {δ : Type} {R : α → β → Prop} {S : γ → δ → Prop} {x : Except ε α} {y : Except ε β}
    {f : α → Except ε γ} {g : β → Except ε δ} (h : Beside look R x y)
    (hnext : ∀ a b, R a b → Beside look S (f a) (g b)) : Beside look S (x >>= f) (y >>= g) := by
  cases h with
  | refused h => exact .refused h
  | done h => exact hnext _ _ h

theorem mapM {δ : Type} {R : α → β → Prop} {S : γ → δ → Prop} {f : α → Except ε γ}
    {g : β → Except ε δ} {xs : List α} {ys : List β} (h : List.Forall₂ R xs ys)
    (hnext : ∀ a b, R a b → Beside look S (f a) (g b)) :
    Beside look (List.Forall₂ S) (xs.mapM f) (ys.mapM g) := by
  induction h with
  | nil => exact .done .nil
  | cons hab _ ih =>
      rw [List.mapM_cons, List.mapM_cons]
      refine (hnext _ _ hab).bind fun c d hcd => ih.bind fun cs ds hcds => ?_
      exact .done (.cons hcd hcds)

/-- On one list it is enough to compare what is done with its members. -/
theorem mapM_same {R : β → γ → Prop} {f : α → Except ε β} {g : α → Except ε γ} (xs : List α)
    (h : ∀ x ∈ xs, Beside look R (f x) (g x)) :
    Beside look (List.Forall₂ R) (xs.mapM f) (xs.mapM g) := by
  have hsame : List.Forall₂ (fun x y => x = y ∧ x ∈ xs) xs xs :=
    List.forall₂_same.2 fun x hx => ⟨rfl, hx⟩
  refine mapM hsame ?_
  rintro x _ ⟨rfl, hx⟩
  exact h x hx

theorem optionMapM_same {R : β → γ → Prop} {f : α → Except ε β} {g : α → Except ε γ} (x : Option α)
    (h : ∀ a ∈ x, Beside look R (f a) (g a)) :
    Beside look (Option.Rel R) (x.mapM f) (x.mapM g) := by
  cases x with
  | none => exact .done .none
  | some a =>
      simp only [Option.mapM_some, map_eq_pure_bind]
      exact (h a rfl).bind fun b c hbc => .done (.some hbc)

end Beside

end CheckMatrix
