/-
Cutting a text at separators.

A text is a list of characters or of bytes.  `cut` keeps the empty fields, so a text with `n`
separators has `n + 1` fields and joining them again gives the text back.
-/
namespace CheckMatrix.Text

variable {α : Type}

/-- The fields of a text between the elements that satisfy `sep`. -/
def cut (sep : α → Bool) : List α → List (List α)
  | [] => [[]]
  | c :: rest =>
    if sep c then [] :: cut sep rest
    else
      match cut sep rest with
      | field :: fields => (c :: field) :: fields
      | [] => [[c]]

/-- A text always has a first field. -/
theorem cut_ne_nil (sep : α → Bool) (text : List α) : cut sep text ≠ [] := by
  induction text with
  | nil => simp [cut]
  | cons c rest ih =>
    unfold cut
    split
    · simp
    · split <;> simp

/-- A text without separators is one field. -/
theorem cut_of_none {sep : α → Bool} {text : List α} (h : ∀ c ∈ text, sep c = false) :
    cut sep text = [text] := by
  induction text with
  | nil => rfl
  | cons c rest ih =>
    have hc : sep c = false := h c (by simp)
    have hrest := ih fun d hd => h d (by simp [hd])
    simp [cut, hc, hrest]

end CheckMatrix.Text
