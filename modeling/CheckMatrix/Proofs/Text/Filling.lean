/-
Filling in tagged words.

A word of a command line is filled in twice: placeholders become the values of a binding, and then
variables become what the environment has for them.  The rules are stated of tagged words
(`Glyph.fillFrom`, `Glyph.substituteFrom`): a literal dollar sign opens no variable, a literal tilde
is not the home directory, a brace behind a dollar sign of either kind belongs to a variable, and a
variable whose name has a literal character in it is nowhere defined.

Planning fills in texts with stand-ins instead.  What spells a tagged word keeps spelling it when
placeholders are filled in, as long as the values have no stand-ins (`spells_fill`).  When variables
have been filled in, the tags have done their work, and what remains is to put the characters back:
`substituteFrom_restore` compares the two sides after that.  The names of variables have to be free
of what a literal character is written as, or a name that should be undefined might be found.
-/
import CheckMatrix.Environment
import CheckMatrix.Proofs.Text.Plain
import CheckMatrix.Proofs.Text.Quoting

namespace CheckMatrix

/-! ### Putting the characters back -/

namespace Marks

theorem restore_of_not {c : Char} (h : ¬ IsStandIn c) : restore c = c := by
  unfold restore
  rw [if_neg fun hc => h (.inl hc), if_neg fun hc => h (.inr hc)]

theorem Unmarked.restore {text : List Char} (h : Unmarked text) : text.map restore = text := by
  have hmap : text.map Marks.restore = text.map id :=
    List.map_congr_left fun c hc => restore_of_not (h c hc)
  rw [hmap, List.map_id]

/-- A test that tells neither sign from its stand-in tells no text from the one put back. -/
theorem test_restore {α : Type} {p : Char → α} (hdollar : p literalDollar = p '$')
    (htilde : p literalTilde = p '~') (c : Char) : p (restore c) = p c := by
  unfold restore
  split
  · rename_i hc
    rw [hc, hdollar]
  · split
    · rename_i hc
      rw [hc, htilde]
    · rfl

theorem placeholderChar_restore (c : Char) : Piece.isNameChar (restore c) = Piece.isNameChar c :=
  test_restore (by decide) (by decide) c

theorem variableChar_restore (c : Char) :
    Variables.isNameChar (restore c) = Variables.isNameChar c :=
  test_restore (by decide +kernel) (by decide +kernel) c

/-- A character that no stand-in stands for is put back nowhere else. -/
theorem restore_eq_iff {d : Char} (hdollar : d ≠ '$') (htilde : d ≠ '~') (hd : ¬ IsStandIn d)
    (c : Char) : restore c = d ↔ c = d := by
  have hfirst : d ≠ literalDollar := fun heq => hd (.inl heq)
  have hsecond : d ≠ literalTilde := fun heq => hd (.inr heq)
  have htest := test_restore (p := fun c => decide (c = d)) (by simp [hdollar.symm, hfirst.symm])
    (by simp [htilde.symm, hsecond.symm]) c
  simpa using htest

theorem takeWhile_restore {p : Char → Bool} (hp : ∀ c, p (restore c) = p c) (text : List Char) :
    (text.map restore).takeWhile p = (text.takeWhile p).map restore := by
  rw [List.takeWhile_map]
  congr 2
  exact funext hp

end Marks

open Marks

theorem Writes.restore {behind : Bool} {g : Glyph} {c : Char} (h : Writes behind g c) :
    Marks.restore c = g.char := by
  cases h with
  | active h => exact restore_of_not h
  | dollar => rfl
  | tilde => rfl
  | kept => rfl

/-- What spells a word has its characters when they are put back. -/
theorem Spells.restore {behind : Bool} {gs : List Glyph} {cs : List Char}
    (h : Spells behind gs cs) : cs.map Marks.restore = gs.map Glyph.char := by
  induction h with
  | nil => rfl
  | cons h _ ih => rw [List.map_cons, List.map_cons, h.restore, ih]

/-- A text that spells a word is cut where the word is. -/
theorem Spells.cut {first second : List Char} :
    ∀ {behind : Bool} {gs : List Glyph}, Spells behind gs (first ++ second) →
      ∃ behind', Spells behind (gs.take first.length) first ∧
        Spells behind' (gs.drop first.length) second := by
  induction first with
  | nil =>
      intro behind gs h
      exact ⟨behind, .nil, h⟩
  | cons c rest ih =>
      intro behind gs h
      cases h with
      | cons hwrites hrest =>
          obtain ⟨behind', htake, hdrop⟩ := ih hrest
          exact ⟨behind', .cons hwrites htake, hdrop⟩

/-! ### Placeholders -/

/-- Fills the placeholders of a tagged word.  `skip` and `guarded` are those of `Piece.scanFrom`. -/
def Glyph.fillFrom (binding : Binding) : (skip : Nat) → (guarded : Bool) → List Glyph → List Glyph
  | _, _, [] => []
  | skip + 1, _, _ :: rest => fillFrom binding skip false rest
  | 0, guarded, g :: rest =>
    match (if g.char = '{' ∧ !guarded then Piece.opened? (rest.map Glyph.char) else none) with
    | some name =>
      (Piece.fill binding (.axis (String.ofList name))).map Glyph.active ++
        fillFrom binding (name.length + 1) false rest
    | none => g :: fillFrom binding 0 (g.char = '$') rest

/-- The tagged word with its placeholders filled in. -/
def Glyph.fill (binding : Binding) (word : List Glyph) : List Glyph :=
  fillFrom binding 0 false word

theorem Glyph.fillFrom_skip (binding : Binding) (n : Nat) :
    ∀ (guarded : Bool) (gs : List Glyph),
      fillFrom binding (n + 1) guarded gs = fillFrom binding 0 false (gs.drop (n + 1)) := by
  induction n with
  | zero =>
      intro guarded gs
      cases gs <;> rfl
  | succ n ih =>
      intro guarded gs
      cases gs with
      | nil => rfl
      | cons g rest => exact ih false rest

theorem unmarked_of_placeholder {name : List Char} (h : ∀ c ∈ name, Piece.isNameChar c = true) :
    Unmarked name := by
  rintro c hc (rfl | rfl)
  · exact absurd (h _ hc) (by decide)
  · exact absurd (h _ hc) (by decide)

theorem Piece.opened?_restore (text : List Char) :
    Piece.opened? (text.map Marks.restore) = Piece.opened? text := by
  have hname : (text.map Marks.restore).takeWhile Piece.isNameChar =
      text.takeWhile Piece.isNameChar := by
    rw [takeWhile_restore placeholderChar_restore]
    exact (unmarked_of_placeholder fun c hc => List.mem_takeWhile_imp hc).restore
  have hbrace : ∀ n : Nat, ((text.map Marks.restore).drop n).head? = some '}' ↔
      (text.drop n).head? = some '}' := by
    intro n
    rw [← List.map_drop, List.head?_map, Option.map_eq_some_iff]
    constructor
    · rintro ⟨c, hc, heq⟩
      rw [hc, (restore_eq_iff (by decide) (by decide) (by decide) c).1 heq]
    · exact fun hc => ⟨'}', hc, rfl⟩
  unfold Piece.opened?
  simp only [hname, hbrace]

/-- The characters that a placeholder becomes are not stand-ins. -/
theorem unmarked_fill {binding : Binding} (hbinding : ∀ e ∈ binding, Unmarked e.2.toList)
    {name : List Char} (hname : ∀ c ∈ name, Piece.isNameChar c = true) :
    Unmarked (Piece.fill binding (.axis (String.ofList name))) := by
  unfold Piece.fill
  simp only
  split
  · rename_i value hvalue
    obtain ⟨before, behind, heq, -⟩ := List.lookup_eq_some_iff.1 hvalue
    exact hbinding (String.ofList name, value) (heq ▸ List.mem_append_right _ List.mem_cons_self)
  · have hplain := unmarked_of_placeholder hname
    intro c hc
    simp only [Piece.render, String.toList_ofList, List.mem_cons, List.mem_append,
      List.not_mem_nil, or_false] at hc
    rcases hc with rfl | hc | rfl
    · decide
    · exact hplain c hc
    · decide

/-- A brace is no backslash to what stands behind it. -/
theorem Spells.drop_brace {behind : Bool} {gs : List Glyph} {name rest : List Char}
    (h : Spells behind gs (name ++ '}' :: rest)) :
    Spells false (gs.drop (name.length + 1)) rest := by
  obtain ⟨behind', -, hdrop⟩ := h.cut
  rw [← List.tail_drop]
  revert hdrop
  generalize gs.drop name.length = inner
  intro hdrop
  cases hdrop with
  | cons hwrites hrest =>
      cases hwrites with
      | active h => exact hrest

theorem Writes.guards {behind : Bool} {g : Glyph} {c : Char} (h : Writes behind g c) :
    Piece.guards c = decide (g.char = '$') := by
  cases h with
  | active h =>
      have hnot : c ≠ literalDollar := fun heq => h (.inl heq)
      simp [Piece.guards, hnot]
  | dollar => rfl
  | tilde => rfl
  | kept => rfl

/-- **Filling in placeholders keeps the spelling.** -/
theorem spells_fillFrom {binding : Binding} (hbinding : ∀ e ∈ binding, Unmarked e.2.toList)
    {gs : List Glyph} :
    ∀ {behind guarded : Bool} {cs : List Char}, Spells behind gs cs →
      Spells behind (Glyph.fillFrom binding 0 guarded gs)
        ((Piece.scanFrom 0 guarded cs).flatMap (Piece.fill binding)) := by
  -- what follows a placeholder is not the tail of the word, so the induction is on the length
  induction hlength : gs.length using Nat.strong_induction_on generalizing gs with
  | _ n ih =>
      intro behind guarded cs h
      cases h with
      | nil => exact .nil
      | @cons _ g c gs cs hwrites hrest =>
          have hshorter : gs.length < n := hlength ▸ Nat.lt_succ_self gs.length
          have hbrace : g.char = '{' ↔ c = '{' := by
            rw [← hwrites.restore]
            exact restore_eq_iff (by decide) (by decide) (by decide) c
          have hopened : Piece.opened? (gs.map Glyph.char) = Piece.opened? cs := by
            rw [← hrest.restore, Piece.opened?_restore]
          simp only [Glyph.fillFrom, Piece.scanFrom, hbrace, hopened]
          cases hname : if c = '{' ∧ (!guarded) = true then Piece.opened? cs else none with
          | none =>
              simp only [List.flatMap_cons, hwrites.guards]
              exact .cons hwrites (ih _ hshorter rfl hrest)
          | some name =>
              have hopens := (Option.ite_none_right_eq_some.1 hname).2
              obtain ⟨hchars, rest, rfl⟩ := Piece.opened?_eq_some hopens
              have hdrop : (name ++ '}' :: rest).drop (name.length + 1) = rest := by
                rw [← List.tail_drop, List.drop_left, List.tail_cons]
              have hfewer : (gs.drop (name.length + 1)).length < n :=
                Nat.lt_of_le_of_lt (List.drop_sublist _ _).length_le hshorter
              simp only [List.flatMap_cons, Glyph.fillFrom_skip, Piece.scanFrom_skip, hdrop]
              refine (Spells.of_active (unmarked_fill hbinding hchars)).append fun behind' => ?_
              exact (ih _ hfewer rfl hrest.drop_brace).mono

/-- The word that a text spells is filled in as the text is. -/
theorem spells_fill {binding : Binding} (hbinding : ∀ e ∈ binding, Unmarked e.2.toList)
    {gs : List Glyph} {word : String} (h : Spells false gs word.toList) :
    Spells false (Glyph.fill binding gs) (interpolate word binding).toList := by
  rw [interpolate, String.toList_ofList]
  exact spells_fillFrom hbinding h

/-! ### Variables -/

namespace Glyph

/-- The name of a reference, which the word goes on with behind a dollar sign, holds a literal
character.  Only a name between braces can. -/
def namesLiteral (r : Variables.Reference) : List Glyph → Bool
  | [] => false
  | g :: rest => g.char = '{' && (rest.take r.name.length).any Glyph.literal

/-- Replaces the references of a tagged word.  Active dollar signs open them, as they do in a text,
and a name with a literal character in it is not defined. -/
def substituteFrom (lookup : String → Option String) :
    (skip : Nat) → List Glyph → Except Variables.Undefined (List Char)
  | _, [] => .ok []
  | skip + 1, _ :: rest => substituteFrom lookup skip rest
  | 0, g :: rest =>
    if g ≠ active '$' then (substituteFrom lookup 0 rest).map (g.char :: ·)
    else
      match Variables.Reference.opened? (rest.map Glyph.char) with
      | some r =>
        match r.value (if namesLiteral r rest then fun _ => none else lookup) with
        | .error e => .error e
        | .ok value => (substituteFrom lookup r.size rest).map (value ++ ·)
      | none =>
        let skip := if rest.head? = some (active '$') then 1 else 0
        (substituteFrom lookup skip rest).map ('$' :: ·)

end Glyph

/-- The reference with its characters put back. -/
def Variables.Reference.restored (r : Variables.Reference) : Variables.Reference :=
  ⟨r.name.map Marks.restore, r.fallback.map (·.map Marks.restore), r.size⟩

namespace Variables

theorem cutFallback_restore (text : List Char) :
    cutFallback (text.map Marks.restore) =
      (cutFallback text).map fun parts =>
        (parts.1.map Marks.restore, parts.2.map Marks.restore) := by
  induction text with
  | nil => rfl
  | cons c rest ih =>
      have hcolon : restore c = ':' ↔ c = ':' :=
        restore_eq_iff (by decide) (by decide) (by decide) c
      have hdash : (rest.map Marks.restore).head? = some '-' ↔ rest.head? = some '-' := by
        cases rest with
        | nil => rfl
        | cons d rest =>
            simp only [List.map_cons, List.head?_cons, Option.some.injEq]
            exact restore_eq_iff (by decide) (by decide) (by decide) d
      simp only [List.map_cons, cutFallback, hcolon, hdash, ih]
      split
      · simp
      · simp [Option.map_map, Function.comp_def]

theorem Reference.ofBraced_restore (body : List Char) :
    Reference.ofBraced (body.map Marks.restore) = (Reference.ofBraced body).restored := by
  unfold Reference.ofBraced
  rw [cutFallback_restore, List.length_map]
  cases cutFallback body with
  | none => rfl
  | some parts =>
      obtain ⟨name, fallback⟩ := parts
      cases name <;> rfl

theorem Reference.opened?_restore (text : List Char) :
    Reference.opened? (text.map Marks.restore) =
      (Reference.opened? text).map Reference.restored := by
  cases text with
  | nil => rfl
  | cons c rest =>
      have hbrace : restore c = '{' ↔ c = '{' :=
        restore_eq_iff (by decide) (by decide) (by decide) c
      have hclose : ∀ d, restore d = '}' ↔ d = '}' :=
        restore_eq_iff (by decide) (by decide) (by decide)
      have hbody := takeWhile_restore (p := (· ≠ '}'))
        (fun d => by simp only [ne_eq, hclose d]) rest
      have hname := takeWhile_restore variableChar_restore (c :: rest)
      simp only [List.map_cons] at hname
      simp only [List.map_cons, Reference.opened?, hbrace, hbody, hname, List.length_map,
        List.map_eq_nil_iff, Reference.ofBraced_restore]
      split
      · split <;> rfl
      · split <;> rfl

end Variables

/-! ### Names of variables -/

/-- A literal character in a word shows in what spells it. -/
theorem Spells.literal {behind : Bool} {gs : List Glyph} {cs : List Char} (h : Spells behind gs cs)
    (hliteral : gs.any Glyph.literal = true) :
    ¬ Unmarked cs ∨ ['\\', '~'] <:+: cs ∨ behind = true ∧ cs.head? = some '~' := by
  induction h with
  | nil => cases hliteral
  | @cons behind g c gs cs hwrites hrest ih =>
      by_cases hlater : gs.any Glyph.literal = true
      · rcases ih hlater with hmarked | hslash | ⟨hbackslash, htilde⟩
        · exact .inl fun hplain => hmarked fun d hd => hplain d (List.mem_cons_of_mem c hd)
        · exact .inr (.inl (List.infix_cons hslash))
        · have hchar : g.char = '\\' := of_decide_eq_true hbackslash
          cases hwrites with
          | active h =>
              obtain ⟨rest, rfl⟩ := List.head?_eq_some_iff.1 htilde
              simp only at hchar
              subst hchar
              exact .inr (.inl ⟨[], rest, rfl⟩)
          | dollar => cases hchar
          | tilde => cases hchar
          | kept => cases hchar
      · cases hwrites with
        | active h => simp [hlater] at hliteral
        | dollar => exact .inl fun hplain => hplain _ List.mem_cons_self (.inl rfl)
        | tilde => exact .inl fun hplain => hplain _ List.mem_cons_self (.inr rfl)
        | kept => exact .inr (.inr ⟨rfl, rfl⟩)

/-- Without literal characters a word is spelled as it is. -/
theorem Spells.unmarked {behind : Bool} {gs : List Glyph} {cs : List Char} (h : Spells behind gs cs)
    (hactive : gs.any Glyph.literal = false) : Unmarked cs := by
  induction h with
  | nil => exact fun c hc => absurd hc List.not_mem_nil
  | cons hwrites _ ih =>
      rw [List.any_cons, Bool.or_eq_false_iff] at hactive
      obtain ⟨hfirst, hlater⟩ := hactive
      cases hwrites with
      | active h =>
          intro d hd
          rcases List.mem_cons.1 hd with rfl | hd
          · exact h
          · exact ih hlater d hd
      | dollar => cases hfirst
      | tilde => cases hfirst
      | kept => cases hfirst

namespace Variables

theorem cutFallback_prefix {text name fallback : List Char}
    (h : cutFallback text = some (name, fallback)) : name <+: text := by
  induction text generalizing name with
  | nil => cases h
  | cons c rest ih =>
      unfold cutFallback at h
      split at h
      · cases h
        exact List.nil_prefix
      · obtain ⟨⟨first, last⟩, hcut, heq⟩ := Option.map_eq_some_iff.1 h
        cases heq
        exact List.cons_prefix_cons.2 ⟨rfl, ih hcut⟩

theorem Reference.ofBraced_name (body : List Char) : (Reference.ofBraced body).name <+: body := by
  unfold Reference.ofBraced
  split
  · rename_i hcut
    exact cutFallback_prefix hcut
  · exact List.prefix_rfl

/-- A name is what stands first between the braces, or it is made of letters, digits and
underscores. -/
theorem Reference.opened?_name {c : Char} {rest : List Char} {r : Reference}
    (h : Reference.opened? (c :: rest) = some r) :
    c = '{' ∧ r.name <+: rest ∨ c ≠ '{' ∧ ∀ d ∈ r.name, isNameChar d = true := by
  by_cases hbrace : c = '{'
  · simp only [Reference.opened?, if_pos hbrace] at h
    obtain ⟨-, heq⟩ := Option.ite_none_right_eq_some.1 h
    cases heq
    exact .inl ⟨hbrace, (Reference.ofBraced_name _).trans (List.takeWhile_prefix _)⟩
  · simp only [Reference.opened?, if_neg hbrace] at h
    obtain ⟨-, heq⟩ := Option.ite_none_left_eq_some.1 h
    cases heq
    exact .inr ⟨hbrace, fun d hd => List.mem_takeWhile_imp hd⟩

end Variables

theorem unmarked_of_variable {name : List Char} (h : ∀ c ∈ name, Variables.isNameChar c = true) :
    Unmarked name := by
  rintro c hc (rfl | rfl)
  · exact absurd (h _ hc) (by decide +kernel)
  · exact absurd (h _ hc) (by decide +kernel)

/-- Variables whose names and values hold nothing that a literal character is written as.  Behind a
backslash a tilde can be one, and of a value nobody asks that. -/
structure Variables.Plain (lookup : String → Option String) : Prop where
  values : ∀ name value, lookup name = some value → Unmarked value.toList
  names : ∀ name value, lookup name = some value → Unmarked name.toList
  slashed : ∀ name value, lookup name = some value → ¬ ['\\', '~'] <:+: name.toList

/-- A name with a literal character in it is not found, and any other name is spelled as it is. -/
theorem Spells.name {lookup : String → Option String} (hlookup : Variables.Plain lookup)
    {behind : Bool} {gs : List Glyph} {cs : List Char} (h : Spells behind gs cs)
    {r : Variables.Reference} (hr : Variables.Reference.opened? cs = some r) :
    if Glyph.namesLiteral r.restored gs = true then lookup (String.ofList r.name) = none
    else r.restored.name = r.name := by
  cases h with
  | nil => cases hr
  | @cons _ g c gs cs hwrites hrest =>
      rcases Variables.Reference.opened?_name hr with ⟨rfl, hname⟩ | ⟨hbrace, hname⟩
      · have hactive : g = ⟨'{', false⟩ := by
          cases hwrites
          rfl
        subst hactive
        obtain ⟨tail, rfl⟩ := hname
        obtain ⟨-, hspells, -⟩ := hrest.cut
        have hliteral : Glyph.namesLiteral r.restored (⟨'{', false⟩ :: gs) =
            (gs.take r.name.length).any Glyph.literal := by
          simp [Glyph.namesLiteral, Variables.Reference.restored]
        rw [hliteral]
        split
        · rename_i hsome
          refine Option.eq_none_iff_forall_not_mem.2 fun value hvalue => ?_
          have hnames := hlookup.names _ value hvalue
          have hslashed := hlookup.slashed _ value hvalue
          rw [String.toList_ofList] at hnames hslashed
          rcases hspells.literal hsome with hmarked | hslash | ⟨hfalse, -⟩
          · exact hmarked hnames
          · exact hslashed hslash
          · cases hfalse
        · rename_i hnone
          exact (hspells.unmarked (Bool.eq_false_iff.2 hnone)).restore
      · have hchar : g.char ≠ '{' := by
          rw [← hwrites.restore]
          exact fun heq => hbrace ((restore_eq_iff (by decide) (by decide) (by decide) c).1 heq)
        have hliteral : Glyph.namesLiteral r.restored (g :: gs) = false := by
          simp [Glyph.namesLiteral, hchar]
        rw [hliteral]
        exact (unmarked_of_variable hname).restore

/-! ### Values of variables -/

theorem Writes.eq_dollar_iff {behind : Bool} {g : Glyph} {c : Char} (h : Writes behind g c) :
    g = Glyph.active '$' ↔ c = '$' := by
  cases h with
  | active h => simp [Glyph.active]
  | dollar => exact iff_of_false (by decide) (by decide)
  | tilde => exact iff_of_false (by decide) (by decide)
  | kept => exact iff_of_false (by decide) (by decide)

theorem Spells.head_dollar_iff {behind : Bool} {gs : List Glyph} {cs : List Char}
    (h : Spells behind gs cs) : gs.head? = some (Glyph.active '$') ↔ cs.head? = some '$' := by
  cases h with
  | nil => exact iff_of_false (by simp) (by simp)
  | cons hwrites _ => simpa using hwrites.eq_dollar_iff

/-- At the front of a word nothing but an active tilde is written as one. -/
theorem Spells.head_tilde_iff {gs : List Glyph} {cs : List Char} (h : Spells false gs cs) :
    gs.head? = some (Glyph.active '~') ↔ cs.head? = some '~' := by
  cases h with
  | nil => exact iff_of_false (by simp) (by simp)
  | cons hwrites _ =>
      cases hwrites with
      | active h => simp [Glyph.active]
      | dollar => exact iff_of_false (by simp [Glyph.active]) (by simp [literalDollar])
      | tilde => exact iff_of_false (by simp [Glyph.active]) (by simp [literalTilde])

namespace Variables

/-- The missing variable with the characters of its name put back. -/
def Undefined.unmarked (e : Undefined) : Undefined :=
  ⟨unmark e.name⟩

/-- What filling in comes to when all characters are put back. -/
def restored (result : Except Undefined (List Char)) : Except Undefined (List Char) :=
  (result.mapError Undefined.unmarked).map (·.map Marks.restore)

theorem restored_map_append (text : List Char) (result : Except Undefined (List Char)) :
    restored (result.map (text ++ ·)) = (restored result).map (text.map Marks.restore ++ ·) := by
  cases result with
  | error e => rfl
  | ok value => exact congrArg Except.ok (List.map_append ..)

theorem restored_map_cons (c : Char) (result : Except Undefined (List Char)) :
    restored (result.map (c :: ·)) = (restored result).map (Marks.restore c :: ·) :=
  restored_map_append [c] result

theorem Reference.value_of_missing {lookup : String → Option String} {r : Reference}
    (h : lookup (String.ofList r.name) = none) : r.value lookup = r.value fun _ => none := by
  simp only [Reference.value, h]

/-- What stands for a missing variable is put back as the reference is. -/
theorem Reference.missing_restored (r : Reference) :
    (r.restored.value fun _ => none) = Variables.restored (r.value fun _ => none) := by
  unfold Reference.value Reference.restored
  cases r.fallback with
  | some fallback => rfl
  | none => simp [Variables.restored, Undefined.unmarked, unmark, Except.mapError, Except.map]

end Variables

section Values

variable {lookup : String → Option String} (hlookup : Variables.Plain lookup)

include hlookup

/-- A reference has the same value on both sides, or is missing on both. -/
theorem Spells.value {behind : Bool} {gs : List Glyph} {cs : List Char} (h : Spells behind gs cs)
    {r : Variables.Reference} (hr : Variables.Reference.opened? cs = some r) :
    r.restored.value (if Glyph.namesLiteral r.restored gs then fun _ => none else lookup) =
      Variables.restored (r.value lookup) := by
  have hname := h.name hlookup hr
  split at hname
  · rename_i hliteral
    rw [if_pos hliteral, Variables.Reference.value_of_missing hname, r.missing_restored]
  · rename_i hactive
    rw [if_neg hactive]
    cases hvalue : lookup (String.ofList r.name) with
    | none =>
        have hmissing : lookup (String.ofList r.restored.name) = none := by
          rw [hname, hvalue]
        rw [Variables.Reference.value_of_missing hmissing,
          Variables.Reference.value_of_missing hvalue, r.missing_restored]
    | some value =>
        have hplain := (hlookup.values _ value hvalue).restore
        unfold Variables.Reference.value
        simp only [hname, hvalue]
        exact congrArg Except.ok hplain.symm

/-- **Variables are filled in alike**, up to putting the characters back. -/
theorem substituteFrom_restore {behind : Bool} {gs : List Glyph} {cs : List Char}
    (h : Spells behind gs cs) :
    ∀ skip : Nat, Glyph.substituteFrom lookup skip gs =
      Variables.restored (Variables.substituteFrom lookup skip cs) := by
  induction h with
  | nil =>
      intro skip
      cases skip <;> rfl
  | @cons _ g c gs cs hwrites hrest ih =>
      intro skip
      cases skip with
      | succ skip => exact ih skip
      | zero =>
          have hdollar := hwrites.eq_dollar_iff
          have hhead := hrest.head_dollar_iff
          have hopened : Variables.Reference.opened? (gs.map Glyph.char) =
              (Variables.Reference.opened? cs).map Variables.Reference.restored := by
            rw [← hrest.restore, Variables.Reference.opened?_restore]
          simp only [Glyph.substituteFrom, Variables.substituteFrom, ne_eq, hdollar, hhead, hopened]
          split
          · -- an ordinary character
            rw [Variables.restored_map_cons, ih 0, hwrites.restore]
          · cases hr : Variables.Reference.opened? cs with
            | none =>
                simp only [Option.map_none, Variables.restored_map_cons, ih]
                rfl
            | some r =>
                have hvalue := hrest.value hlookup hr
                have hsize : r.restored.size = r.size := rfl
                simp only [Option.map_some, hvalue, hsize, ih]
                cases r.value lookup with
                | error e => rfl
                | ok value => exact (Variables.restored_map_append value _).symm

end Values

end CheckMatrix
