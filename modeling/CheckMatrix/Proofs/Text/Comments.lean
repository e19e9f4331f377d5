/-
What marking does to the words of a line.

Planning marks a line before it splits it.  Two things are asked of the marker: that it does not
change where words begin and end, and that putting the characters back gives the words of the line
itself.

The first always holds.  What the marker changes is no quote, no blank and no hash sign, and the
backslashes that it leaves out stand in front of characters that are ordinary without them, so the
splitter goes through the same places whichever of the two lines it reads (`length_split_mark`).  That
the marker may be wrong about the quoting does not matter here.

For the second it does.  A backslash in double quotes protects a dollar sign but not the stand-in of
one, and within single quotes the two are characters apart.  The marker reads on through comments,
so an apostrophe in a comment makes it take what follows for quoted.  As long as each comment that
is followed by another line leaves the marker outside of quotes, the words come back as they were
(`split_mark_restored`); `Sample.split_mark_comment` is a line where it does not.
-/
import CheckMatrix.Proofs.Text.Filling

namespace CheckMatrix

namespace Words

open Marks

/-! ### Where the splitter gets to -/

/-- The number of words that an effect finishes. -/
def Effect.finished : Effect → Nat
  | .finish => 1
  | _ => 0

/-- Where a splitter stands, with the number of words finished so far, behind one more
character. -/
def pass (reached : Place × Nat) (c : Char) : Place × Nat :=
  ((reached.1.next c).1, reached.2 + (reached.1.next c).2.finished)

/-- The number of words in a text that ends where a splitter stands. -/
def total : Place × Nat → Option Nat
  | (.gap, count) => some count
  | (.comment, count) => some count
  | (.bare, count) => some (count + 1)
  | _ => none

/-- How many words a text has is a matter of the places that it leads through. -/
theorem length_wordsFrom {text : List Char} :
    ∀ (place : Place) (word : List Char) (count : Nat),
      (wordsFrom place word text).map (count + ·.length) = total (text.foldl pass (place, count)) := by
  induction text with
  | nil =>
      intro place word count
      cases place <;> rfl
  | cons c rest ih =>
      intro place word count
      rw [wordsFrom_cons, List.foldl_cons, pass]
      obtain ⟨after, effect⟩ := place.next c
      cases effect with
      | skip => exact ih after word count
      | add text => exact ih after (word ++ text) count
      | finish =>
          rw [Effect.finished, ← ih after [] (count + 1), Option.map_map]
          congr 1
          funext words
          simp only [Function.comp_def, List.length_cons]
          omega

/-! ### Where the splitter of the marked line gets to -/

/-- What the marker has read and not written yet. -/
def withheld : Quoting → List Char
  | .bareEscape => ['\\']
  | .doubleEscape => ['\\']
  | _ => []

/-- A stand-in leads where the character leads that it stands for, -/
theorem pass_standIn {c d : Char} (h : c = '$' ∧ d = literalDollar ∨ c = '~' ∧ d = literalTilde)
    (reached : Place × Nat) : pass reached d = pass reached c := by
  obtain ⟨place, count⟩ := reached
  obtain ⟨rfl, rfl⟩ | ⟨rfl, rfl⟩ := h <;> cases place <;> rfl

/-- and no backslash in front of it makes a difference. -/
theorem pass_escaped {c d : Char} (h : c = '$' ∧ d = literalDollar ∨ c = '~' ∧ d = literalTilde)
    (reached : Place × Nat) : pass reached d = pass (pass reached '\\') c := by
  obtain ⟨place, count⟩ := reached
  obtain ⟨rfl, rfl⟩ | ⟨rfl, rfl⟩ := h <;> cases place <;> rfl

/-- **What the marker writes for a character leads where the character leads**, however the marker
takes it to be quoted. -/
theorem foldl_pass_next (quoting : Quoting) (c : Char) (reached : Place × Nat) :
    ((quoting.next c).2 ++ withheld (quoting.next c).1).foldl pass reached =
      (withheld quoting ++ [c]).foldl pass reached := by
  have hdollar := pass_standIn (.inl ⟨rfl, rfl⟩) reached
  have htilde := pass_standIn (.inr ⟨rfl, rfl⟩) reached
  have hescapedDollar := pass_escaped (.inl ⟨rfl, rfl⟩) reached
  have hescapedTilde := pass_escaped (.inr ⟨rfl, rfl⟩) reached
  cases quoting <;> simp only [Quoting.next] <;> split_ifs <;> simp_all [withheld]

/-- The splitter goes through the marked text as it goes through the text itself. -/
theorem foldl_pass_markFrom {text : List Char} :
    ∀ (quoting : Quoting) (reached : Place × Nat),
      (markFrom quoting text).foldl pass reached =
        (withheld quoting ++ text).foldl pass reached := by
  induction text with
  | nil =>
      intro quoting reached
      cases quoting <;> rfl
  | cons c rest ih =>
      intro quoting reached
      calc (markFrom quoting (c :: rest)).foldl pass reached
          = (withheld (quoting.next c).1 ++ rest).foldl pass
              ((quoting.next c).2.foldl pass reached) := by
            rw [markFrom_cons, List.foldl_append, ih]
        _ = rest.foldl pass (((quoting.next c).2 ++ withheld (quoting.next c).1).foldl pass
              reached) := by
            rw [List.foldl_append, List.foldl_append]
        _ = (withheld quoting ++ c :: rest).foldl pass reached := by
            rw [foldl_pass_next, ← List.foldl_append, List.append_assoc, List.singleton_append]

/-- **Marking changes neither whether a line has words nor how many.** -/
theorem length_split_mark (line : String) :
    (split (mark line)).map List.length = (split line).map List.length := by
  have hlength : ∀ l : String,
      (split l).map List.length = total (l.toList.foldl pass (.gap, 0)) := by
    intro l
    rw [← length_wordsFrom .gap [] 0, split, Option.map_map]
    congr 1
    funext words
    simp
  rw [hlength, hlength, mark, String.toList_ofList, foldl_pass_markFrom]
  rfl

/-! ### Putting the characters back -/

/-- Forgetting the tags gives the words of the line. -/
theorem splitGlyphs_chars (line : String) :
    (splitGlyphs line).map (·.map fun gs => String.ofList (gs.map Glyph.char)) = split line := by
  have hchars : (glyphsFrom .gap [] line.toList).map (·.map (·.map Glyph.char)) =
      wordsFrom .gap [] line.toList := glyphsFrom_chars .gap []
  rw [splitGlyphs, split, ← hchars, Option.map_map]
  congr 1
  funext words
  simp

/-- What spells a word is the word when the characters are put back. -/
theorem unmark_of_spells {gs : List Glyph} {word : String} (h : Spells false gs word.toList) :
    unmark word = String.ofList (gs.map Glyph.char) := by
  rw [unmark, h.restore]

/-- The words of a settled line come back. -/
theorem map_unmark_split_mark {line : String} (hunmarked : Unmarked line.toList)
    (hsettled : Settled .gap .bare line.toList) :
    (split (mark line)).map (·.map unmark) = split line := by
  have hwords := split_mark hunmarked hsettled
  rw [← splitGlyphs_chars line]
  generalize split (mark line) = marked at hwords ⊢
  generalize splitGlyphs line = tagged at hwords ⊢
  cases hwords with
  | none => rfl
  | some hspells =>
      exact congrArg some (map_eq_of_forall₂ (fun gs word h => unmark_of_spells h) hspells)

/-- **Marking a line does not change where it is cut.**  It has words exactly when the line has, and
as many; and when every comment with a line behind it leaves the marker outside of quotes, they are
the words of the line once the characters are put back. -/
theorem split_mark_restored {line : String} (hunmarked : Unmarked line.toList) :
    (split (mark line) = none ↔ split line = none) ∧
      (split (mark line)).map List.length = (split line).map List.length ∧
      (Settled .gap .bare line.toList → (split (mark line)).map (·.map unmark) = split line) := by
  have hlength := length_split_mark line
  refine ⟨?_, hlength, map_unmark_split_mark hunmarked⟩
  rw [← Option.map_eq_none_iff (f := List.length), hlength, Option.map_eq_none_iff]

end Words

/-! ### Comments with quotes in them -/

namespace Sample

open Marks Words

/-- Two comments, with a quoted word in the first one and an apostrophe in the last. -/
def commented : String :=
  "cargo 'a $b' # not \"$x\" but \\'\n \"c \\$d\" e\\~ # don't"

/-- The words come back, and the second comment may have any quotes in it. -/
theorem split_mark_restored_commented :
    Unmarked commented.toList ∧ Settled .gap .bare commented.toList ∧
      split commented = some ["cargo", "a $b", "c $d", "e~"] ∧
      (split (mark commented)).map (·.map unmark) = some ["cargo", "a $b", "c $d", "e~"] := by
  have hunmarked : Unmarked commented.toList := by decide +kernel
  have hsettled : Settled .gap .bare commented.toList := by decide +kernel
  have hsplit : split commented = some ["cargo", "a $b", "c $d", "e~"] := by decide +kernel
  have hrestored := (split_mark_restored hunmarked).2.2 hsettled
  exact ⟨hunmarked, hsettled, hsplit, hrestored.trans hsplit⟩

/-- An apostrophe in a comment opens a quote for the marker.  It then takes the backslash of the
next line for a character and replaces the dollar sign behind it, and in front of the stand-in the
splitter keeps the backslash. -/
theorem split_mark_comment :
    Unmarked "# it's\necho \"\\$HOME\"".toList ∧
      split "# it's\necho \"\\$HOME\"" = some ["echo", "$HOME"] ∧
      (split (mark "# it's\necho \"\\$HOME\"")).map (·.map unmark) =
        some ["echo", "\\$HOME"] := by
  decide +kernel

end Sample

end CheckMatrix
