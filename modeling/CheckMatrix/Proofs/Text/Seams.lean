/-
What quoting does to placeholders.

Placeholders are looked for in a command line as it is written, and filled in in the words that the
line is cut into.  The two readings differ where a line has seams: quoting in the midst of a
placeholder disappears from the word, quoting between a dollar sign and a brace does too, and a
comment is in no word at all.

The words of a line are written one behind the other (`kept`), and then the two texts are scanned
side by side.  What the scanners have to agree on is whether a dollar sign is in front: the one that
reads the line forgets it over a quote, and the one that reads the words does not (`Follows`).  In a
line without such seams neither ever sees a placeholder that the other does not (`Seamless.names`).

Marking does not matter to placeholders: a stand-in guards a brace as the dollar sign does, and the
backslashes that come and go with it stand in front of no brace (`Alike`).
-/
import CheckMatrix.Proofs.Text.Comments
import CheckMatrix.Proofs.Text.Scanning

namespace CheckMatrix

/-! ### Names of placeholders -/

namespace Piece

/-- The names of the placeholders of a text, in order. -/
def namesFrom (guarded : Bool) (text : List Char) : List String :=
  (scanFrom 0 guarded text).filterMap axis?

/-- The names of the placeholders of a text, in order. -/
def names (text : String) : List String :=
  (scan text).filterMap axis?

theorem namesFrom_placeholder {name : List Char} (h : IsName name) (rest : List Char) :
    namesFrom false ('{' :: (name ++ '}' :: rest)) =
      String.ofList name :: namesFrom false rest := by
  rw [namesFrom, scanFrom_placeholder h]
  rfl

theorem namesFrom_plain {guarded : Bool} {c : Char} {rest : List Char}
    (h : ¬ Opens guarded (c :: rest)) :
    namesFrom guarded (c :: rest) = namesFrom (guards c) rest := by
  rw [namesFrom, scanFrom_plain h]
  rfl

theorem namesFrom_of_ne {c : Char} (h : c ≠ '{') (guarded : Bool) (rest : List Char) :
    namesFrom guarded (c :: rest) = namesFrom (guards c) rest := by
  refine namesFrom_plain ?_
  rintro ⟨-, name, behind, -, heq⟩
  exact h (List.cons.inj heq).1

/-- No placeholder reaches over a blank. -/
theorem namesFrom_append_blank (guarded : Bool) (before rest : List Char) :
    namesFrom guarded (before ++ ' ' :: rest) =
      namesFrom guarded before ++ namesFrom false rest := by
  rw [namesFrom, scanFrom_append_stop (by decide) (by decide), List.filterMap_append]
  exact congrArg _ (namesFrom_of_ne (by decide) _ rest)

instance (guarded : Bool) (text : List Char) : Decidable (Opens guarded text) :=
  match text with
  | [] => .isFalse (by rintro ⟨-, name, rest, -, heq⟩; cases heq)
  | c :: rest =>
    decidable_of_iff (guarded = false ∧ c = '{' ∧ (opened? rest).isSome) <| by
      constructor
      · rintro ⟨hfree, rfl, hopened⟩
        obtain ⟨name, hsome⟩ := Option.isSome_iff_exists.1 hopened
        obtain ⟨hname, behind, rfl⟩ := opened?_eq_some_iff.1 hsome
        exact ⟨hfree, name, behind, hname, rfl⟩
      · rintro ⟨hfree, name, behind, hname, heq⟩
        obtain ⟨rfl, rfl⟩ := List.cons.inj heq
        exact ⟨hfree, rfl, Option.isSome_iff_exists.2
          ⟨name, opened?_eq_some_iff.2 ⟨hname, behind, rfl⟩⟩⟩

end Piece

namespace Words

open Marks Piece

/-! ### The words of a line, one behind the other -/

/-- The characters that an effect adds to the words, with a blank where a word ends. -/
def Effect.text : Effect → List Char
  | .skip => []
  | .add text => text
  | .finish => [' ']

/-- What is kept of a text in its words, one behind the other. -/
def kept : Place → List Char → List Char
  | _, [] => []
  | place, c :: rest => (place.next c).2.text ++ kept (place.next c).1 rest

/-- Where a splitter stands behind a text. -/
def Place.behind (place : Place) (text : List Char) : Place :=
  text.foldl (fun reached c => (reached.next c).1) place

theorem kept_append (place : Place) (front rest : List Char) :
    kept place (front ++ rest) = kept place front ++ kept (place.behind front) rest := by
  induction front generalizing place with
  | nil => rfl
  | cons c front ih =>
      rw [List.cons_append, kept, kept, ih, List.append_assoc]
      rfl

/-- A place where no word has begun. -/
def Place.Outside (place : Place) : Prop :=
  place = .gap ∨ place = .comment

/-- The characters that quoting is written with; a backslash takes a line break away, too. -/
def isQuoting (c : Char) : Bool :=
  c = '\'' || c = '"' || c = '\\' || c = '\n'

/-- What a character does to the words: it ends one, it is part of one, or it is not in them. -/
theorem Place.next_cases (place : Place) (c : Char) :
    ((place.next c).2 = .skip ∧ (place.Outside ∨ isQuoting c = true)) ∨
      (place.next c).2 = .add [c] ∨
      (place = .doubleEscape ∧ (place.next c).2 = .add ['\\', c]) ∨
      (place.next c).2 = .finish := by
  cases place <;> simp only [Place.next, Place.inWord] <;> repeat' split
  all_goals simp_all [Place.Outside, isQuoting]

/-- A word is left only when it ends. -/
theorem Place.outside_of_next (place : Place) (c : Char) :
    (place.next c).1.Outside →
      (place.Outside ∧ (place.next c).2 = .skip) ∨ (place.next c).2 = .finish := by
  cases place <;> simp only [Place.next, Place.inWord] <;> split_ifs <;> simp [Place.Outside]

/-- Nothing is added in a comment, and what is added is in a word. -/
theorem Place.inside_of_add {place : Place} {c : Char} {text : List Char}
    (h : (place.next c).2 = .add text) : place ≠ .comment ∧ ¬ (place.next c).1.Outside := by
  constructor
  · rintro rfl
    cases h
  · intro hafter
    obtain ⟨-, hskip⟩ | hfinish := place.outside_of_next c hafter
    · rw [h] at hskip
      cases hskip
    · rw [h] at hfinish
      cases hfinish

/-- The placeholders of the words are those of the words one behind the other. -/
theorem namesFrom_kept {text : List Char} :
    ∀ {place : Place} {word : List Char} {words : List (List Char)},
      wordsFrom place word text = some words → (place.Outside → word = []) →
        namesFrom false (word ++ kept place text) = words.flatMap (namesFrom false) := by
  induction text with
  | nil =>
      intro place word words h hword
      rw [kept, List.append_nil]
      cases place with
      | gap =>
          cases h
          rw [hword (.inl rfl)]
          rfl
      | comment =>
          cases h
          rw [hword (.inr rfl)]
          rfl
      | bare =>
          cases h
          rw [List.flatMap_singleton]
      | _ => cases h
  | cons c rest ih =>
      intro place word words h hword
      rw [wordsFrom_cons] at h
      rw [kept]
      have houtside := place.outside_of_next c
      have hinside := fun {text} (h : (place.next c).2 = .add text) => (Place.inside_of_add h).2
      generalize place.next c = reached at h houtside hinside ⊢
      obtain ⟨after, effect⟩ := reached
      cases effect with
      | skip =>
          rw [Effect.text, List.nil_append]
          refine ih h fun hafter => ?_
          obtain ⟨hplace, -⟩ | hfinish := houtside hafter
          · exact hword hplace
          · cases hfinish
      | add text =>
          rw [Effect.text, ← List.append_assoc]
          exact ih h fun hafter => absurd hafter (hinside rfl)
      | finish =>
          obtain ⟨others, hothers, rfl⟩ := Option.map_eq_some_iff.1 h
          rw [Effect.text, List.singleton_append, namesFrom_append_blank, List.flatMap_cons]
          exact congrArg _ (ih hothers fun _ => rfl)

/-! ### Stand-ins -/

/-- A dollar sign or a tilde, or the stand-in of one. -/
def IsSign (c : Char) : Prop :=
  restore c = '$' ∨ restore c = '~'

instance (c : Char) : Decidable (IsSign c) :=
  inferInstanceAs (Decidable (restore c = '$' ∨ restore c = '~'))

theorem eq_of_restore {c d : Char} (h : restore c = restore d) (hc : ¬ IsSign c) : c = d := by
  have hself : ∀ e, ¬ IsSign e → restore e = e := by
    intro e he
    refine restore_of_not ?_
    rintro (rfl | rfl)
    · exact he (.inl rfl)
    · exact he (.inr rfl)
  have hd : ¬ IsSign d := by
    unfold IsSign at hc ⊢
    rwa [← h]
  rw [← hself c hc, ← hself d hd, h]

theorem guards_of_restore {c d : Char} (h : restore c = restore d) : guards c = guards d := by
  rw [← test_restore (p := guards) rfl rfl c, h, test_restore (p := guards) rfl rfl]

/-- Two texts that differ in stand-ins, and in backslashes in front of signs. -/
inductive Alike : List Char → List Char → Prop
  | nil : Alike [] []
  | char {c d : Char} {s t : List Char} (h : restore c = restore d) (hrest : Alike s t) :
      Alike (c :: s) (d :: t)
  | left {c d : Char} {s t : List Char} (h : restore c = restore d) (hsign : IsSign c)
      (hrest : Alike s t) : Alike ('\\' :: c :: s) (d :: t)
  | right {c d : Char} {s t : List Char} (h : restore c = restore d) (hsign : IsSign c)
      (hrest : Alike s t) : Alike (c :: s) ('\\' :: d :: t)

namespace Alike

theorem refl (s : List Char) : Alike s s := by
  induction s with
  | nil => exact .nil
  | cons c rest ih => exact .char rfl ih

theorem symm {s t : List Char} (h : Alike s t) : Alike t s := by
  have hsame : ∀ {c d : Char}, restore c = restore d → IsSign c → IsSign d := by
    intro c d h hsign
    unfold IsSign at hsign ⊢
    rwa [← h]
  induction h with
  | nil => exact .nil
  | char h _ ih => exact .char h.symm ih
  | left h hsign _ ih => exact .right h.symm (hsame h hsign) ih
  | right h hsign _ ih => exact .left h.symm (hsame h hsign) ih

theorem append {a b s t : List Char} (h : Alike a b) (hrest : Alike s t) :
    Alike (a ++ s) (b ++ t) := by
  induction h with
  | nil => exact hrest
  | char h _ ih => exact .char h ih
  | left h hsign _ ih => exact .left h hsign ih
  | right h hsign _ ih => exact .right h hsign ih

/-- Any other character is in both. -/
theorem of_cons {c : Char} {s t : List Char} (h : Alike (c :: s) t) (hslash : c ≠ '\\')
    (hsign : ¬ IsSign c) : ∃ t', t = c :: t' ∧ Alike s t' := by
  cases h with
  | char h hrest =>
      obtain rfl := eq_of_restore h hsign
      exact ⟨_, rfl, hrest⟩
  | left => exact absurd rfl hslash
  | right _ h => exact absurd h hsign

/-- What a brace opens is in both. -/
theorem of_name {name s t : List Char} (hname : ∀ c ∈ name, isNameChar c = true)
    (h : Alike (name ++ '}' :: s) t) : ∃ t', t = name ++ '}' :: t' ∧ Alike s t' := by
  induction name generalizing t with
  | nil => exact h.of_cons (by decide) (by decide)
  | cons c rest ih =>
      obtain ⟨hc, hrest⟩ := List.forall_mem_cons.1 hname
      have hslash : c ≠ '\\' := by
        rintro rfl
        exact absurd hc (by decide)
      have hsign : ¬ IsSign c := by
        unfold IsSign
        rw [← placeholderChar_restore] at hc
        rintro (hsign | hsign) <;> rw [hsign] at hc <;> exact absurd hc (by decide)
      obtain ⟨_, rfl, htail⟩ := h.of_cons hslash hsign
      obtain ⟨t', rfl, hbehind⟩ := ih hrest htail
      exact ⟨t', rfl, hbehind⟩

theorem opens {guarded : Bool} {s t : List Char} (h : Alike s t) (hopens : Opens guarded s) :
    Opens guarded t := by
  obtain ⟨hfree, name, rest, hname, rfl⟩ := hopens
  obtain ⟨_, rfl, htail⟩ := h.of_cons (by decide) (by decide)
  obtain ⟨t, rfl, -⟩ := htail.of_name hname.2
  exact ⟨hfree, name, t, hname, rfl⟩

/-- **Neither stand-ins nor such backslashes matter to placeholders.** -/
theorem namesFrom {s t : List Char} (h : Alike s t) (guarded : Bool) :
    namesFrom guarded s = namesFrom guarded t := by
  have hbrace : ∀ {c d : Char}, restore c = restore d → IsSign c → d ≠ '{' := by
    rintro c _ h hsign rfl
    unfold IsSign at hsign
    rw [h] at hsign
    exact absurd hsign (by decide)
  induction guarded, s using scan_induction generalizing t with
  | nil guarded =>
      cases h
      rfl
  | placeholder name rest hname ih =>
      obtain ⟨_, rfl, htail⟩ := h.of_cons (by decide) (by decide)
      obtain ⟨t, rfl, hbehind⟩ := htail.of_name hname.2
      rw [namesFrom_placeholder hname, namesFrom_placeholder hname, ih hbehind]
  | plain guarded c rest hopens ih =>
      rw [namesFrom_plain hopens]
      cases h with
      | char h hrest =>
          have hother := fun hd => hopens ((Alike.char h hrest).symm.opens hd)
          rw [namesFrom_plain hother, ih hrest, guards_of_restore h]
      | left h hsign hrest =>
          rw [ih (.char h hrest), namesFrom_of_ne (hbrace h hsign),
            namesFrom_of_ne (hbrace h hsign)]
      | right h hsign hrest =>
          rw [ih hrest, namesFrom_of_ne (by decide), namesFrom_of_ne (hbrace h hsign),
            guards_of_restore h]

end Alike

/-- What is kept of a sign and of its stand-in. -/
theorem alike_standIn {c d : Char} (h : c = '$' ∧ d = literalDollar ∨ c = '~' ∧ d = literalTilde)
    (place : Place) :
    Alike (kept place [c]) (kept place [d]) ∧ Alike (kept place ['\\', c]) (kept place [d]) := by
  have hsign : IsSign c ∧ restore c = restore d := by
    obtain ⟨rfl, rfl⟩ | ⟨rfl, rfl⟩ := h
    · exact ⟨.inl rfl, rfl⟩
    · exact ⟨.inr rfl, rfl⟩
  obtain ⟨hsign, hrestore⟩ := hsign
  have hchar : Alike [c] [d] := .char hrestore .nil
  have hleft : Alike ['\\', c] [d] := .left hrestore hsign .nil
  have hright : Alike [c] ['\\', d] := .right hrestore hsign .nil
  have hboth : Alike ['\\', c] ['\\', d] := .char rfl hchar
  obtain ⟨rfl, rfl⟩ | ⟨rfl, rfl⟩ := h
  · cases place with
    | comment => exact ⟨.nil, .nil⟩
    | gap => exact ⟨hchar, hchar⟩
    | bare => exact ⟨hchar, hchar⟩
    | bareEscape => exact ⟨hchar, hleft⟩
    | single => exact ⟨hchar, hleft⟩
    | double => exact ⟨hchar, hchar⟩
    | doubleEscape => exact ⟨hright, hboth⟩
  · -- a tilde differs in double quotes, which keep the backslash in front of it
    cases place with
    | comment => exact ⟨.nil, .nil⟩
    | gap => exact ⟨hchar, hchar⟩
    | bare => exact ⟨hchar, hchar⟩
    | bareEscape => exact ⟨hchar, hleft⟩
    | single => exact ⟨hchar, hleft⟩
    | double => exact ⟨hchar, hleft⟩
    | doubleEscape => exact ⟨hboth, hboth⟩

/-- What is kept of what the marker writes for a character. -/
theorem alike_next (place : Place) (quoting : Quoting) (c : Char) :
    Alike (kept place (withheld quoting ++ [c]))
      (kept place ((quoting.next c).2 ++ withheld (quoting.next c).1)) := by
  obtain ⟨hdollar, hescapedDollar⟩ := alike_standIn (.inl ⟨rfl, rfl⟩) place
  obtain ⟨htilde, hescapedTilde⟩ := alike_standIn (.inr ⟨rfl, rfl⟩) place
  cases quoting with
  | bare =>
      simp only [Quoting.next]
      split_ifs <;> subst_vars <;> exact .refl _
  | single =>
      simp only [Quoting.next]
      split_ifs with _ hc hc
      · exact .refl _
      · exact hc ▸ hdollar
      · exact hc ▸ htilde
      · exact .refl _
  | double =>
      simp only [Quoting.next]
      split_ifs with _ hc hc
      · exact .refl _
      · exact hc ▸ htilde
      · exact hc ▸ .refl _
      · exact .refl _
  | bareEscape =>
      simp only [Quoting.next]
      split_ifs with hc hc
      · exact hc ▸ hescapedDollar
      · exact hc ▸ hescapedTilde
      · exact .refl _
  | doubleEscape =>
      simp only [Quoting.next]
      split_ifs with hc
      · exact hc ▸ hescapedDollar
      · exact .refl _

theorem foldl_pass_fst (reached : Place × Nat) (text : List Char) :
    (text.foldl pass reached).1 = reached.1.behind text := by
  induction text generalizing reached with
  | nil => rfl
  | cons c rest ih => exact ih (pass reached c)

theorem behind_next (place : Place) (quoting : Quoting) (c : Char) :
    place.behind ((quoting.next c).2 ++ withheld (quoting.next c).1) =
      place.behind (withheld quoting ++ [c]) := by
  rw [← foldl_pass_fst (place, 0), ← foldl_pass_fst (place, 0), foldl_pass_next]

/-- Marking changes none of the placeholders that are kept. -/
theorem namesFrom_kept_markFrom (guarded : Bool) {text : List Char} :
    ∀ (quoting : Quoting) (place : Place) (front : List Char),
      namesFrom guarded (front ++ kept place (withheld quoting ++ text)) =
        namesFrom guarded (front ++ kept place (markFrom quoting text)) := by
  induction text with
  | nil =>
      intro quoting place front
      cases quoting <;> rfl
  | cons c rest ih =>
      intro quoting place front
      have hlook := (alike_next place quoting c).append (.refl (kept (place.behind
        (withheld quoting ++ [c])) rest))
      calc namesFrom guarded (front ++ kept place (withheld quoting ++ c :: rest))
          = namesFrom guarded (front ++ (kept place (withheld quoting ++ [c]) ++
              kept (place.behind (withheld quoting ++ [c])) rest)) := by
            rw [← kept_append, List.append_assoc, List.singleton_append]
        _ = namesFrom guarded (front ++ (kept place ((quoting.next c).2 ++
              withheld (quoting.next c).1) ++
              kept (place.behind (withheld quoting ++ [c])) rest)) :=
            ((Alike.refl front).append hlook).namesFrom guarded
        _ = namesFrom guarded ((front ++ kept place (quoting.next c).2) ++
              kept (place.behind (quoting.next c).2) (withheld (quoting.next c).1 ++ rest)) := by
            rw [← behind_next, ← kept_append, List.append_assoc, kept_append, List.append_assoc]
        _ = namesFrom guarded (front ++ kept place (markFrom quoting (c :: rest))) := by
            rw [ih, markFrom_cons, kept_append, List.append_assoc]

/-! ### Lines without seams -/

/-- A text that leads to a closing brace through names and quoting only has no quoting there. -/
def Whole (text : List Char) : Prop :=
  (text.dropWhile fun c => isNameChar c || isQuoting c).head? = some '}' →
    (text.takeWhile fun c => isNameChar c || isQuoting c).all isNameChar

/-- A text that begins with quoting has no placeholder right behind it. -/
def Apart (text : List Char) : Prop :=
  text.head?.any isQuoting → ¬ Opens false (text.dropWhile isQuoting)

/-- A line has no placeholder in a comment, no quoting within the braces of a placeholder, and none
between a dollar sign and a placeholder. -/
def Seamless : Place → (guarded : Bool) → List Char → Prop
  | _, _, [] => True
  | place, guarded, c :: rest =>
    (place = .comment → ¬ Opens guarded (c :: rest)) ∧
      (place ≠ .comment → (c = '{' → Whole rest) ∧ (guards c = true → Apart rest)) ∧
      Seamless (place.next c).1 (guards c) rest

instance (text : List Char) : Decidable (Whole text) :=
  inferInstanceAs (Decidable (_ → _))

instance (text : List Char) : Decidable (Apart text) :=
  inferInstanceAs (Decidable (_ → _))

instance Seamless.decidable : ∀ (place : Place) (guarded : Bool) (text : List Char),
    Decidable (Seamless place guarded text)
  | _, _, [] => .isTrue trivial
  | place, guarded, c :: rest =>
    have := Seamless.decidable (place.next c).1 (guards c) rest
    inferInstanceAs (Decidable ((place = .comment → ¬ Opens guarded (c :: rest)) ∧
      (place ≠ .comment → (c = '{' → Whole rest) ∧ (guards c = true → Apart rest)) ∧
      Seamless (place.next c).1 (guards c) rest))

theorem Seamless.behind {place : Place} {guarded : Bool} {front rest : List Char}
    (h : Seamless place guarded (front ++ rest)) :
    Seamless (place.behind front) (guardsBehind guarded front) rest := by
  induction front generalizing place guarded with
  | nil => exact h
  | cons c front ih =>
      rw [guardsBehind_cons]
      exact ih h.2.2

/-! ### Names in one piece -/

theorem not_isNameChar_of_isQuoting {c : Char} (h : isQuoting c = true) : isNameChar c ≠ true := by
  simp only [isQuoting, Bool.or_eq_true, decide_eq_true_eq] at h
  obtain ((rfl | rfl) | rfl) | rfl := h <;> decide

theorem cons_ne_name {d : Char} (hstop : isNameChar d = false) (hend : d ≠ '}')
    {name rest tail : List Char} (hname : ∀ c ∈ name, isNameChar c = true) :
    d :: rest ≠ name ++ '}' :: tail := by
  intro h
  cases name with
  | nil => exact hend (List.cons.inj h).1
  | cons c name =>
      obtain ⟨rfl, -⟩ := List.cons.inj h
      rw [hname d List.mem_cons_self] at hstop
      cases hstop

/-- What leads to a closing brace in a word leads there in the line, through quoting if need be. -/
theorem exists_run_of_kept {text : List Char} :
    ∀ {place : Place} {name tail : List Char}, ¬ place.Outside →
      (∀ c ∈ name, isNameChar c = true) → kept place text = name ++ '}' :: tail →
        ∃ run rest, text = run ++ '}' :: rest ∧
          (∀ c ∈ run, (isNameChar c || isQuoting c) = true) ∧
          ((∀ c ∈ run, isNameChar c = true) → run = name) := by
  induction text with
  | nil =>
      intro place name tail _ _ h
      cases name <;> cases h
  | cons c rest ih =>
      intro place name tail hplace hname h
      rw [kept] at h
      have hafter := mt (place.outside_of_next c)
      obtain ⟨hskip, hquoting⟩ | hadd | ⟨-, hadd⟩ | hfinish := place.next_cases c
      · rw [hskip, Effect.text, List.nil_append] at h
        obtain ⟨run, behind, rfl, hrun, hwhole⟩ := ih (hafter (by simp [hskip, hplace])) hname h
        have hc := hquoting.resolve_left hplace
        have hfirst : (isNameChar c || isQuoting c) = true := by simp [hc]
        refine ⟨c :: run, behind, rfl, List.forall_mem_cons.2 ⟨hfirst, hrun⟩, fun hall => ?_⟩
        exact absurd (hall c List.mem_cons_self) (not_isNameChar_of_isQuoting hc)
      · rw [hadd, Effect.text, List.singleton_append] at h
        cases name with
        | nil =>
            obtain ⟨rfl, -⟩ := List.cons.inj h
            exact ⟨[], rest, rfl, List.forall_mem_nil _, fun _ => rfl⟩
        | cons d name =>
            obtain ⟨rfl, htail⟩ := List.cons.inj h
            obtain ⟨hd, hname⟩ := List.forall_mem_cons.1 hname
            obtain ⟨run, behind, rfl, hrun, hwhole⟩ := ih (hafter (by simp [hadd])) hname htail
            have hfirst : (isNameChar c || isQuoting c) = true := by simp [hd]
            refine ⟨c :: run, behind, rfl, List.forall_mem_cons.2 ⟨hfirst, hrun⟩, fun hall => ?_⟩
            rw [hwhole (List.forall_mem_cons.1 hall).2]
      · rw [hadd] at h
        exact absurd h (cons_ne_name (by decide) (by decide) hname)
      · rw [hfinish] at h
        exact absurd h (cons_ne_name (by decide) (by decide) hname)

/-- A placeholder that a word has is one in the line, when it has no quoting within. -/
theorem Whole.opens {place : Place} {guarded : Bool} {text : List Char} (h : Whole text)
    (hplace : ¬ place.Outside) (hopens : Opens guarded ('{' :: kept place text)) :
    Opens guarded ('{' :: text) := by
  obtain ⟨hfree, name, tail, hname, heq⟩ := hopens
  obtain ⟨run, rest, rfl, hrun, hwhole⟩ := exists_run_of_kept hplace hname.2 (List.cons.inj heq).2
  have htake : (run ++ '}' :: rest).takeWhile (fun c => isNameChar c || isQuoting c) = run := by
    rw [List.takeWhile_append_of_pos hrun, List.takeWhile_cons_of_neg (by decide), List.append_nil]
  have hdrop : (run ++ '}' :: rest).dropWhile (fun c => isNameChar c || isQuoting c) =
      '}' :: rest := by
    rw [List.dropWhile_append_of_pos hrun, List.dropWhile_cons_of_neg (by decide)]
  unfold Whole at h
  rw [htake, hdrop] at h
  obtain rfl := hwhole (List.all_eq_true.1 (h rfl))
  exact ⟨hfree, run, rest, hname, rfl⟩

/-! ### Scanning a line and its words side by side -/

/-- The two scanners are side by side: the splitter stands at a place in front of the rest of a
line, and a dollar sign may be right in front of it in the line, or in the word. -/
structure Follows (place : Place) (guarded keptGuard : Bool) (text : List Char) : Prop where
  outside : place.Outside → keptGuard = false
  kept : guarded = true → place ≠ .comment → keptGuard = true
  escape : place = .doubleEscape → guarded = false
  /-- A dollar sign that only the word has in front has quoting behind it. -/
  apart : keptGuard = true → (guarded = true → Apart text) ∧
    (guarded = false → ¬ Opens false (text.dropWhile isQuoting))

/-- No dollar sign is in front of either. -/
theorem Follows.free (place : Place) (text : List Char) : Follows place false false text :=
  ⟨fun _ => rfl, nofun, fun _ => rfl, nofun⟩

/-- A dollar sign is kept wherever it is not in a comment. -/
theorem Place.next_of_guards {place : Place} {c : Char} (hc : guards c = true)
    (hplace : place ≠ .comment) : ∃ front, (place.next c).2 = .add (front ++ [c]) := by
  have hcases : c = '$' ∨ c = literalDollar := by simpa [guards] using hc
  obtain rfl | rfl := hcases <;> cases place
  case inl.comment | inr.comment => exact absurd rfl hplace
  case inr.doubleEscape => exact ⟨['\\'], rfl⟩
  all_goals exact ⟨[], rfl⟩

theorem Place.next_of_guards_ne {place : Place} {c : Char} (hc : guards c = true) :
    (place.next c).1 ≠ .doubleEscape ∧ ((place.next c).1 ≠ .comment → place ≠ .comment) := by
  have hcases : c = '$' ∨ c = literalDollar := by simpa [guards] using hc
  obtain rfl | rfl := hcases <;> cases place <;> decide

/-- The guard of the word changes with what is kept. -/
theorem Follows.next {place : Place} {guarded keptGuard : Bool} {c : Char} {rest : List Char}
    (h : Follows place guarded keptGuard (c :: rest))
    (hseams : place ≠ .comment → guards c = true → Apart rest) :
    Follows (place.next c).1 (guards c)
      (guardsBehind keptGuard (place.next c).2.text) rest := by
  refine { outside := fun hafter => ?outside, kept := fun hc hafter => ?kept,
           escape := fun hafter => ?escape,
           apart := fun hkept => ⟨fun hc => ?sign, fun hc => ?quoting⟩ }
  case outside =>
    obtain ⟨hplace, hskip⟩ | hfinish := place.outside_of_next c hafter
    · rw [hskip]
      exact h.outside hplace
    · rw [hfinish]
      rfl
  case kept =>
    obtain ⟨front, hadd⟩ := Place.next_of_guards hc ((Place.next_of_guards_ne hc).2 hafter)
    rw [hadd, Effect.text, guardsBehind_append]
    exact hc
  case escape => exact Bool.eq_false_iff.2 fun hc => (Place.next_of_guards_ne hc).1 hafter
  case sign =>
    refine hseams ?_ hc
    rintro rfl
    have hskip : (Place.comment.next c).2 = .skip := rfl
    rw [hskip, h.outside (.inr rfl)] at hkept
    cases hkept
  case quoting =>
    -- the guard is still there although the character is no sign, so the character is quoting
    obtain ⟨hskip, hplace⟩ | hadd | ⟨-, hadd⟩ | hfinish := place.next_cases c
    · rw [hskip] at hkept
      have hquoting : isQuoting c = true := by
        refine hplace.resolve_left fun houtside => ?_
        rw [h.outside houtside] at hkept
        cases hkept
      have hdrop : (c :: rest).dropWhile isQuoting = rest.dropWhile isQuoting :=
        List.dropWhile_cons_of_pos hquoting
      obtain ⟨happart, hfree⟩ := h.apart hkept
      rw [← hdrop]
      cases guarded with
      | true => exact happart rfl hquoting
      | false => exact hfree rfl
    · rw [hadd] at hkept
      exact absurd hkept (by simpa [Effect.text, guardsBehind] using hc)
    · rw [hadd] at hkept
      exact absurd hkept (by simpa [Effect.text, guardsBehind] using hc)
    · rw [hfinish] at hkept
      cases hkept

/-- Names and their closing braces are kept as they are. -/
theorem kept_unquoted {place : Place} (hplace : place = .bare ∨ place = .single ∨ place = .double)
    {text : List Char} (htext : ∀ c ∈ text, isNameChar c = true ∨ c = '}') :
    kept place text = text := by
  induction text with
  | nil => rfl
  | cons c rest ih =>
      obtain ⟨hc, hrest⟩ := List.forall_mem_cons.1 htext
      have hne : ∀ d, ¬ (isNameChar d = true ∨ d = '}') → c ≠ d := by
        rintro d hd rfl
        exact hd hc
      have hblank : isBlank c = false := by
        simp [isBlank, hne ' ' (by decide), hne '\t' (by decide), hne '\n' (by decide)]
      have hnext : place.next c = (place, .add [c]) := by
        obtain rfl | rfl | rfl := hplace <;>
          simp [Place.next, Place.inWord, hblank, hne '"' (by decide), hne '\'' (by decide),
            hne '\\' (by decide)]
      rw [kept, hnext, ih hrest]
      rfl

/-- A placeholder that is not in a comment is kept in one piece. -/
theorem kept_placeholder {place : Place} (hplace : place ≠ .comment) {name : List Char}
    (hname : IsName name) : ∃ front, (front = [] ∨ front = ['\\']) ∧
      kept place ('{' :: (name ++ ['}'])) = front ++ '{' :: (name ++ ['}']) := by
  have hbehind : ∀ c ∈ name ++ ['}'], isNameChar c = true ∨ c = '}' := by
    intro c hc
    obtain hc | hc := List.mem_append.1 hc
    · exact .inl (hname.2 c hc)
    · exact .inr (List.mem_singleton.1 hc)
  have hbare := kept_unquoted (.inl rfl) hbehind
  have hsingle := kept_unquoted (.inr (.inl rfl)) hbehind
  have hdouble := kept_unquoted (.inr (.inr rfl)) hbehind
  cases place with
  | comment => exact absurd rfl hplace
  | gap => exact ⟨[], .inl rfl, congrArg _ hbare⟩
  | bare => exact ⟨[], .inl rfl, congrArg _ hbare⟩
  | bareEscape => exact ⟨[], .inl rfl, congrArg _ hbare⟩
  | single => exact ⟨[], .inl rfl, congrArg _ hsingle⟩
  | double => exact ⟨[], .inl rfl, congrArg _ hdouble⟩
  | doubleEscape => exact ⟨['\\'], .inr rfl, congrArg _ hdouble⟩

/-- A word does not open a placeholder where the line opens none. -/
theorem not_opens_kept {place : Place} {guarded guard : Bool} {c : Char} {rest added : List Char}
    (hadd : (place.next c).2 = .add added)
    (hseams : place ≠ .comment → (c = '{' → Whole rest) ∧ (guards c = true → Apart rest))
    (hguard : guard = false → guarded = false) (hopens : ¬ Opens guarded (c :: rest)) :
    ¬ Opens guard (c :: kept (place.next c).1 rest) := by
  intro hkept
  obtain ⟨hplace, hafter⟩ := Place.inside_of_add hadd
  obtain ⟨hfree, name, tail, hname, heq⟩ := id hkept
  obtain ⟨rfl, -⟩ := List.cons.inj heq
  refine hopens ?_
  rw [hguard hfree, ← hfree]
  exact ((hseams hplace).1 rfl).opens hafter hkept

/-- **A line without seams and its words have the same placeholders.** -/
theorem Seamless.namesFrom {guarded : Bool} {text : List Char} :
    ∀ {place : Place} {keptGuard : Bool}, Follows place guarded keptGuard text →
      Seamless place guarded text →
        Piece.namesFrom guarded text = Piece.namesFrom keptGuard (kept place text) := by
  induction guarded, text using scan_induction with
  | nil guarded =>
      intro place keptGuard _ _
      rfl
  | placeholder name rest hname ih =>
      intro place keptGuard hfollows hseamless
      -- the line has no dollar sign in front, and by the invariant the word has none either
      have hopens : Opens false ('{' :: (name ++ '}' :: rest)) := ⟨rfl, name, rest, hname, rfl⟩
      have hplace : place ≠ .comment := fun hcomment => hseamless.1 hcomment hopens
      have hfree : keptGuard = false :=
        Bool.eq_false_iff.2 fun hkept => (hfollows.apart hkept).2 rfl hopens
      have hsplit : '{' :: (name ++ '}' :: rest) = '{' :: (name ++ ['}']) ++ rest := by simp
      have hlater := (hsplit ▸ hseamless).behind
      rw [guardsBehind_placeholder] at hlater
      have hrest := ih (.free _ rest) hlater
      obtain ⟨front, hfront, hkept⟩ := kept_placeholder hplace hname
      have hjoin : front ++ '{' :: (name ++ ['}']) ++
          kept (place.behind ('{' :: (name ++ ['}']))) rest =
            front ++ '{' :: (name ++ '}' :: kept (place.behind ('{' :: (name ++ ['}']))) rest) := by
        simp
      rw [namesFrom_placeholder hname, hrest, hsplit, kept_append, hkept, hjoin, hfree]
      obtain rfl | rfl := hfront
      · rw [List.nil_append, namesFrom_placeholder hname]
      · rw [List.singleton_append, namesFrom_of_ne (by decide)]
        exact (namesFrom_placeholder hname _).symm
  | plain guarded c rest hopens ih =>
      intro place keptGuard hfollows hseamless
      obtain ⟨-, hseams, hlater⟩ := hseamless
      have hrest := ih (hfollows.next fun hplace => (hseams hplace).2) hlater
      rw [namesFrom_plain hopens, hrest, kept]
      obtain ⟨hskip, -⟩ | hadd | ⟨rfl, hadd⟩ | hfinish := place.next_cases c
      · rw [hskip]
        rfl
      · have hguard : keptGuard = false → guarded = false := fun hfree =>
          Bool.eq_false_iff.2 fun hguarded => by
            rw [hfollows.kept hguarded (Place.inside_of_add hadd).1] at hfree
            cases hfree
        have hplain := not_opens_kept hadd hseams hguard hopens
        rw [hadd, Effect.text, List.singleton_append, namesFrom_plain hplain]
        rfl
      · -- a backslash that double quotes keep: it is in front of the character in both texts
        have hguard : false = false → guarded = false := fun _ => hfollows.escape rfl
        have hplain := not_opens_kept hadd hseams hguard hopens
        rw [hadd, Effect.text, List.cons_append, List.singleton_append, namesFrom_of_ne (by decide)]
        exact (namesFrom_plain hplain).symm
      · rw [hfinish, Effect.text, List.singleton_append, namesFrom_of_ne (by decide)]
        rfl

/-- **The words of a line without seams have the placeholders of the line**, in order. -/
theorem Seamless.names {line : String} (h : Seamless .gap false line.toList)
    {words : List String} (hwords : split (mark line) = some words) :
    words.flatMap Piece.names = Piece.names line := by
  obtain ⟨texts, htexts, rfl⟩ := Option.map_eq_some_iff.1 hwords
  rw [mark, String.toList_ofList] at htexts
  have hjoined := namesFrom_kept htexts fun _ => rfl
  have hmarked : Piece.namesFrom false (kept .gap line.toList) =
      Piece.namesFrom false (kept .gap (markFrom .bare line.toList)) :=
    namesFrom_kept_markFrom false .bare .gap []
  calc (texts.map String.ofList).flatMap Piece.names
      = texts.flatMap (Piece.namesFrom false) := by
        rw [List.flatMap_map]
        simp only [Piece.names, scan, String.toList_ofList]
        rfl
    _ = Piece.namesFrom false (kept .gap (markFrom .bare line.toList)) := hjoined.symm
    _ = Piece.namesFrom false (kept .gap line.toList) := hmarked.symm
    _ = Piece.names line := (Seamless.namesFrom (.free _ _) h).symm

end Words

end CheckMatrix
