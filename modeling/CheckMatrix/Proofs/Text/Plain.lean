/-
Texts that stay as they are.

Scanning a text for placeholders loses nothing: the pieces, written down again, are the text
(`Piece.scan_render`).  A text without placeholders is therefore its own filling under every
binding, and one without a dollar sign has no variables to fill in.
-/
import CheckMatrix.Text.Placeholder
import CheckMatrix.Text.Variables
import Mathlib.Data.List.Basic
import Mathlib.Data.List.TakeWhile

namespace CheckMatrix

/-! ### Scanning -/

namespace Piece

/-- A placeholder ends in a brace. -/
theorem opened?_eq_some {text name : List Char} (h : opened? text = some name) :
    (∀ c ∈ name, isNameChar c = true) ∧ ∃ rest, text = name ++ '}' :: rest := by
  unfold opened? at h
  simp only [Option.ite_none_right_eq_some, Option.some.injEq] at h
  obtain ⟨⟨-, hbrace⟩, hname⟩ := h
  rw [hname] at hbrace
  have hsplit : text = name ++ text.drop name.length := by
    have hprefix : name <+: text := hname ▸ List.takeWhile_prefix _
    exact (List.prefix_iff_eq_append.1 hprefix).symm
  refine ⟨fun c hc => ?_, (text.drop name.length).tail, ?_⟩
  · rw [← hname] at hc
    exact List.mem_takeWhile_imp hc
  · rw [← List.eq_cons_of_mem_head? hbrace]
    exact hsplit

theorem scanFrom_skip (n : Nat) :
    ∀ (guarded : Bool) (text : List Char),
      scanFrom (n + 1) guarded text = scanFrom 0 false (text.drop (n + 1)) := by
  induction n with
  | zero =>
      intro guarded text
      cases text <;> rfl
  | succ n ih =>
      intro guarded text
      cases text with
      | nil => rfl
      | cons c rest => exact ih false rest

theorem scanFrom_render (text : List Char) :
    ∀ (skip : Nat) (guarded : Bool),
      (scanFrom skip guarded text).flatMap render = text.drop skip := by
  induction text with
  | nil =>
      intro skip guarded
      cases skip <;> rfl
  | cons c rest ih =>
      intro skip guarded
      cases skip with
      | succ skip => exact ih skip false
      | zero =>
          unfold scanFrom
          split
          · rename_i name hname
            obtain ⟨⟨rfl, -⟩, hopened⟩ := Option.ite_none_right_eq_some.1 hname
            obtain ⟨-, behind, rfl⟩ := opened?_eq_some hopened
            rw [List.flatMap_cons, ih, ← List.tail_drop, List.drop_left]
            simp [render]
          · exact congrArg (c :: ·) (ih 0 (guards c))

/-- **Scanning loses nothing.** -/
theorem scan_render (text : String) : (scan text).flatMap render = text.toList :=
  scanFrom_render text.toList 0 false

/-- Without braces there is nothing but characters. -/
theorem axis?_of_mem_scanFrom {text : List Char} (hbrace : '{' ∉ text) :
    ∀ (skip : Nat) (guarded : Bool), ∀ p ∈ scanFrom skip guarded text, p.axis? = none := by
  induction text with
  | nil =>
      intro skip guarded p hp
      cases skip <;> cases hp
  | cons c rest ih =>
      have hfirst := List.ne_of_not_mem_cons hbrace
      have hrest := List.not_mem_of_not_mem_cons hbrace
      intro skip guarded p hp
      cases skip with
      | succ skip => exact ih hrest skip false p hp
      | zero =>
          rw [scanFrom, if_neg fun h => hfirst h.1.symm] at hp
          rcases List.mem_cons.1 hp with rfl | hp
          · rfl
          · exact ih hrest 0 (guards c) p hp

end Piece

/-! ### Texts without placeholders -/

/-- A text without placeholders. -/
def Unfilled (text : String) : Prop :=
  ∀ p ∈ Piece.scan text, p.axis? = none

instance (text : String) : Decidable (Unfilled text) :=
  inferInstanceAs (Decidable (∀ p ∈ Piece.scan text, p.axis? = none))

theorem unfilled_of_notMem {text : String} (hbrace : '{' ∉ text.toList) : Unfilled text :=
  Piece.axis?_of_mem_scanFrom hbrace 0 false

theorem Unfilled.interpolate {text : String} (h : Unfilled text) (binding : Binding) :
    interpolate text binding = text := by
  have hfill : (Piece.scan text).flatMap (Piece.fill binding) =
      (Piece.scan text).flatMap Piece.render := by
    refine List.flatMap_congr fun p hp => ?_
    cases p with
    | plain c => rfl
    | axis name => cases h _ hp
  rw [CheckMatrix.interpolate, hfill, Piece.scan_render, String.ofList_toList]

/-! ### Texts without variables -/

namespace Variables

theorem substituteFrom_of_notMem {lookup : String → Option String} {text : List Char}
    (hdollar : '$' ∉ text) : substituteFrom lookup 0 text = .ok text := by
  induction text with
  | nil => rfl
  | cons c rest ih =>
      have hfirst := List.ne_of_not_mem_cons hdollar
      rw [substituteFrom, if_pos hfirst.symm, ih (List.not_mem_of_not_mem_cons hdollar)]
      rfl

theorem substitute_of_notMem {lookup : String → Option String} {text : String}
    (hdollar : '$' ∉ text.toList) : substitute lookup text = .ok text := by
  rw [substitute, substituteFrom_of_notMem hdollar]
  exact congrArg Except.ok (String.ofList_toList ..)

end Variables

end CheckMatrix
