/-
Where the placeholders of a text are.

The rule is stated without a scanner: a placeholder stands wherever a name in braces is written and
no dollar sign, nor the stand-in of one, is right in front of it (`Piece.Stands`).  A name has no
braces in it, so two placeholders never overlap, and a text is cut at any of them without harm to the
others (`scanFrom_append_stop`).

Scanning goes from left to right in two kinds of steps, over a placeholder or over one character
that opens none, and `scan_induction` is induction along these steps.  With it the scanner is seen to
find the placeholders that the rule says, in their order and with nothing lost between them, and
filling in a text comes to filling in what is on either side of a placeholder (`scan_exact`).
-/
import CheckMatrix.Proofs.Text.Plain

namespace CheckMatrix

namespace Piece

/-! ### Names in braces -/

/-- What a placeholder can be called. -/
def IsName (name : List Char) : Prop :=
  name ≠ [] ∧ ∀ c ∈ name, isNameChar c = true

theorem IsName.takeWhile {name : List Char} (h : IsName name) (rest : List Char) :
    (name ++ '}' :: rest).takeWhile isNameChar = name := by
  have hend : ('}' :: rest).takeWhile isNameChar = [] := List.takeWhile_cons_of_neg (by decide)
  rw [List.takeWhile_append_of_pos h.2, hend, List.append_nil]

/-- What a brace opens is a name with a brace behind it. -/
theorem opened?_eq_some_iff {text name : List Char} :
    opened? text = some name ↔ IsName name ∧ ∃ rest, text = name ++ '}' :: rest := by
  constructor
  · intro h
    obtain ⟨hchars, hrest⟩ := opened?_eq_some h
    refine ⟨⟨?_, hchars⟩, hrest⟩
    unfold opened? at h
    simp only [Option.ite_none_right_eq_some, Option.some.injEq] at h
    exact h.2 ▸ h.1.1
  · rintro ⟨hname, rest, rfl⟩
    simp only [opened?, hname.takeWhile, List.drop_left]
    exact if_pos ⟨hname.1, rfl⟩

/-- A text begins with a placeholder, if no dollar sign is in front of it. -/
def Opens (guarded : Bool) (text : List Char) : Prop :=
  guarded = false ∧ ∃ name rest, IsName name ∧ text = '{' :: (name ++ '}' :: rest)

/-! ### The steps of the scanner -/

/-- One step over a placeholder, -/
theorem scanFrom_placeholder {name : List Char} (h : IsName name) (rest : List Char) :
    scanFrom 0 false ('{' :: (name ++ '}' :: rest)) =
      .axis (String.ofList name) :: scanFrom 0 false rest := by
  have hopened : opened? (name ++ '}' :: rest) = some name := opened?_eq_some_iff.2 ⟨h, rest, rfl⟩
  rw [scanFrom, if_pos ⟨rfl, rfl⟩, hopened]
  simp only [scanFrom_skip]
  rw [← List.tail_drop, List.drop_left]
  rfl

/-- and one over a character. -/
theorem scanFrom_plain {guarded : Bool} {c : Char} {rest : List Char}
    (h : ¬ Opens guarded (c :: rest)) :
    scanFrom 0 guarded (c :: rest) = .plain c :: scanFrom 0 (guards c) rest := by
  have hnone : (if c = '{' ∧ !guarded then opened? rest else none) = none := by
    split
    · rename_i hbrace
      obtain ⟨rfl, hfree⟩ := hbrace
      refine Option.eq_none_iff_forall_ne_some.2 fun name hopened => ?_
      obtain ⟨hname, behind, rfl⟩ := opened?_eq_some_iff.1 hopened
      exact h ⟨by simpa using hfree, name, behind, hname, rfl⟩
    · rfl
  rw [scanFrom, hnone]

/-- Induction along the steps of the scanner. -/
@[elab_as_elim]
theorem scan_induction {motive : Bool → List Char → Prop} (nil : ∀ guarded, motive guarded [])
    (placeholder : ∀ name rest, IsName name → motive false rest →
      motive false ('{' :: (name ++ '}' :: rest)))
    (plain : ∀ guarded c rest, ¬ Opens guarded (c :: rest) → motive (guards c) rest →
      motive guarded (c :: rest))
    (guarded : Bool) (text : List Char) : motive guarded text := by
  induction hlength : text.length using Nat.strong_induction_on generalizing guarded text with
  | _ n ih =>
      cases text with
      | nil => exact nil guarded
      | cons c rest =>
          by_cases hopens : Opens guarded (c :: rest)
          · obtain ⟨rfl, name, behind, hname, heq⟩ := hopens
            rw [heq] at hlength ⊢
            simp only [List.length_cons, List.length_append] at hlength
            exact placeholder name behind hname (ih behind.length (by omega) false behind rfl)
          · simp only [List.length_cons] at hlength
            exact plain guarded c rest hopens (ih rest.length (by omega) (guards c) rest rfl)

/-! ### Cutting a text -/

/-- Whether a brace behind a text belongs to a variable. -/
def guardsBehind (guarded : Bool) (text : List Char) : Bool :=
  (text.getLast?.map guards).getD guarded

theorem guardsBehind_cons (guarded : Bool) (c : Char) (rest : List Char) :
    guardsBehind guarded (c :: rest) = guardsBehind (guards c) rest := by
  cases rest with
  | nil => rfl
  | cons d rest => rw [guardsBehind, guardsBehind, List.getLast?_cons_cons, List.getLast?_cons]; rfl

theorem guardsBehind_append (guarded : Bool) (a b : List Char) :
    guardsBehind guarded (a ++ b) = guardsBehind (guardsBehind guarded a) b := by
  induction a generalizing guarded with
  | nil => rfl
  | cons c rest ih => rw [List.cons_append, guardsBehind_cons, guardsBehind_cons, ih]

/-- Nothing is guarded right behind a placeholder. -/
theorem guardsBehind_placeholder (guarded : Bool) (name rest : List Char) :
    guardsBehind guarded ('{' :: (name ++ '}' :: rest)) = guardsBehind false rest := by
  rw [guardsBehind_cons, guardsBehind_append, guardsBehind_cons]
  rfl

/-- A name in braces does not reach over a character that is neither part of it nor its end. -/
theorem opens_of_append_stop {guarded : Bool} {before rest : List Char} {c d : Char}
    (hstop : isNameChar d = false) (hend : d ≠ '}') (h : Opens guarded (c :: before ++ d :: rest)) :
    Opens guarded (c :: before) := by
  obtain ⟨hfree, name, behind, hname, heq⟩ := h
  obtain ⟨rfl, htail⟩ := List.cons.inj heq
  refine ⟨hfree, name, ?_⟩
  obtain ⟨more, hbefore, hmore⟩ | ⟨more, hover, hmore⟩ := List.append_eq_append_iff.1 htail
  · cases more with
    | nil =>
        cases hmore
        exact absurd rfl hend
    | cons e more =>
        cases hmore
        have hchar := hname.2 d (hbefore ▸ by simp)
        rw [hstop] at hchar
        cases hchar
  · cases more with
    | nil =>
        cases hmore
        exact absurd rfl hend
    | cons e more =>
        cases hmore
        exact ⟨more, hname, congrArg _ hover⟩

/-- **A text can be cut in front of a brace**, and of any other such character. -/
theorem scanFrom_append_stop {d : Char} (hstop : isNameChar d = false) (hend : d ≠ '}')
    (guarded : Bool) (before rest : List Char) :
    scanFrom 0 guarded (before ++ d :: rest) =
      scanFrom 0 guarded before ++ scanFrom 0 (guardsBehind guarded before) (d :: rest) := by
  induction guarded, before using scan_induction with
  | nil guarded => rfl
  | placeholder name behind hname ih =>
      have hassoc : '{' :: (name ++ '}' :: behind) ++ d :: rest =
          '{' :: (name ++ '}' :: (behind ++ d :: rest)) := by simp
      rw [hassoc, scanFrom_placeholder hname, scanFrom_placeholder hname, ih,
        guardsBehind_placeholder]
      rfl
  | plain guarded c before hopens ih =>
      have hcut : ¬ Opens guarded (c :: (before ++ d :: rest)) :=
        fun h => hopens (opens_of_append_stop hstop hend h)
      rw [scanFrom_plain hopens, List.cons_append, scanFrom_plain hcut, ih, guardsBehind_cons]
      rfl

/-! ### What the scanner finds -/

/-- A placeholder stands in a text behind `before` and in front of `after`: its name is in braces,
and what is right in front of them is neither a dollar sign nor the stand-in of one. -/
structure Stands (text before : List Char) (name : String) (after : List Char) : Prop where
  written : text = before ++ '{' :: (name.toList ++ '}' :: after)
  named : IsName name.toList
  free : ∀ c ∈ before.getLast?, guards c = false

theorem guardsBehind_false_iff {text : List Char} :
    guardsBehind false text = false ↔ ∀ c ∈ text.getLast?, guards c = false := by
  unfold guardsBehind
  cases text.getLast? <;> simp

/-- A text is scanned on either side of a placeholder. -/
theorem Stands.scan {text : String} {before after : List Char} {name : String}
    (h : Stands text.toList before name after) :
    scan text = scanFrom 0 false before ++ .axis name :: scanFrom 0 false after := by
  rw [Piece.scan, h.written, scanFrom_append_stop (by decide) (by decide),
    guardsBehind_false_iff.2 h.free, scanFrom_placeholder h.named, String.ofList_toList]

/-- What is found has a name and is not guarded. -/
theorem scanFrom_found (guarded : Bool) (text : List Char) :
    ∀ {front back : List Piece} {name : String},
      scanFrom 0 guarded text = front ++ .axis name :: back →
        IsName name.toList ∧ guardsBehind guarded (front.flatMap render) = false := by
  induction guarded, text using scan_induction with
  | nil guarded =>
      intro front back name h
      cases front <;> cases h
  | placeholder found rest hname ih =>
      intro front back name h
      rw [scanFrom_placeholder hname] at h
      cases front with
      | nil =>
          cases h
          rw [String.toList_ofList]
          exact ⟨hname, rfl⟩
      | cons piece front =>
          obtain ⟨rfl, hrest⟩ := List.cons.inj h
          obtain ⟨hnext, hfree⟩ := ih hrest
          refine ⟨hnext, ?_⟩
          rw [List.flatMap_cons, guardsBehind_append, render, guardsBehind_placeholder]
          exact hfree
  | plain guarded c rest hopens ih =>
      intro front back name h
      rw [scanFrom_plain hopens] at h
      cases front with
      | nil => cases h
      | cons piece front =>
          obtain ⟨rfl, hrest⟩ := List.cons.inj h
          obtain ⟨hnext, hfree⟩ := ih hrest
          refine ⟨hnext, ?_⟩
          rw [List.flatMap_cons, render, List.singleton_append, guardsBehind_cons]
          exact hfree

/-- What is found stands where the pieces in front of it end. -/
theorem stands_of_scan {text : String} {front back : List Piece} {name : String}
    (h : scan text = front ++ .axis name :: back) :
    Stands text.toList (front.flatMap render) name (back.flatMap render) := by
  obtain ⟨hname, hfree⟩ := scanFrom_found false text.toList h
  refine ⟨?_, hname, guardsBehind_false_iff.1 hfree⟩
  rw [← scan_render, h, List.flatMap_append, List.flatMap_cons, render]
  simp

end Piece

/-! ### Filling in -/

open Piece

/-- Filling in a text is filling in what is on either side of a placeholder, and nothing that is
put in between is looked at. -/
theorem Piece.Stands.interpolate {text : String} {before after : List Char} {name : String}
    (h : Stands text.toList before name after) (binding : Binding) :
    interpolate text binding =
      interpolate (String.ofList before) binding ++
        (binding.lookup name).getD ("\x7b" ++ name ++ "\x7d") ++
      interpolate (String.ofList after) binding := by
  have hvalue : String.ofList (fill binding (.axis name)) =
      (binding.lookup name).getD ("\x7b" ++ name ++ "\x7d") := by
    cases hlookup : binding.lookup name with
    | none => exact String.toList_inj.1 (by simp [fill, hlookup, render])
    | some value => exact String.toList_inj.1 (by simp [fill, hlookup])
  rw [CheckMatrix.interpolate, h.scan, List.flatMap_append, List.flatMap_cons,
    String.ofList_append, String.ofList_append, hvalue, ← String.append_assoc]
  simp only [CheckMatrix.interpolate, Piece.scan, String.toList_ofList]

/-- A text in which no placeholder stands is left as it is. -/
theorem unfilled_of_not_stands {text : String}
    (h : ∀ before name after, ¬ Stands text.toList before name after) : Unfilled text := by
  intro piece hpiece
  cases piece with
  | plain c => rfl
  | axis name =>
      obtain ⟨front, back, hscan⟩ := List.append_of_mem hpiece
      exact absurd (stands_of_scan hscan) (h _ _ _)

/-- Without values every piece stays as it was written. -/
theorem interpolate_nil (text : String) : interpolate text [] = text := by
  have hfill : fill [] = render := by
    funext piece
    cases piece <;> rfl
  rw [interpolate, hfill, scan_render, String.ofList_toList]

/-- **Scanning is exact and loses nothing.**  The pieces make up the text, and the placeholders among
them are those that stand in it, each where it stands.  Filling in replaces every placeholder by the
first value that the binding has under its name, leaves it if there is none, and leaves all else. -/
theorem scan_exact (text : String) :
    (scan text).flatMap render = text.toList ∧
      (∀ before name after, Stands text.toList before name after ↔
        ∃ front back, scan text = front ++ .axis name :: back ∧
          front.flatMap render = before ∧ back.flatMap render = after) ∧
      (∀ before name after binding, Stands text.toList before name after →
        interpolate text binding =
          interpolate (String.ofList before) binding ++
            (binding.lookup name).getD ("\x7b" ++ name ++ "\x7d") ++
          interpolate (String.ofList after) binding) ∧
      ((∀ before name after, ¬ Stands text.toList before name after) →
        ∀ binding, interpolate text binding = text) ∧
      interpolate text [] = text := by
  refine ⟨scan_render text, fun before name after => ⟨fun h => ?_, ?_⟩,
    fun before name after binding h => h.interpolate binding,
    fun h binding => (unfilled_of_not_stands h).interpolate binding, interpolate_nil text⟩
  · exact ⟨_, _, h.scan, scanFrom_render before 0 false, scanFrom_render after 0 false⟩
  · rintro ⟨front, back, hscan, rfl, rfl⟩
    exact stands_of_scan hscan

/-- A placeholder in braces of its own, in front of a variable that is called like it. -/
def Sample.nested : String :=
  "\x7b\x7bx\x7d\x7d$\x7bx\x7d"

/-- The first value counts; it is written like a placeholder and stays so, and the variable stays. -/
theorem Sample.interpolate_nested :
    Stands nested.toList ['{'] "x" ['}', '$', '{', 'x', '}'] ∧
      interpolate nested [("x", "\x7by\x7d"), ("x", "no"), ("y", "z")] =
        "\x7b\x7by\x7d\x7d$\x7bx\x7d" := by
  have hname : IsName "x".toList := ⟨by decide +kernel, by simp [isNameChar]⟩
  have hstands : Stands nested.toList ['{'] "x" ['}', '$', '{', 'x', '}'] := by
    refine ⟨by decide +kernel, hname, ?_⟩
    rintro _ ⟨⟩
    rfl
  have hfilled := (scan_exact nested).2.2.1 _ _ _
    [("x", "\x7by\x7d"), ("x", "no"), ("y", "z")] hstands
  exact ⟨hstands, hfilled.trans (by decide +kernel)⟩

end CheckMatrix
