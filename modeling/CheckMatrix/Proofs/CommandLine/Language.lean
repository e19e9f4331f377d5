/-
The language is looked for before the command line is read.

`languageAhead` goes through the bare arguments and knows nothing of options, their letters, their
values or the two forms of a command line.  It agrees with the reading all the same, for every
command line that is read: `Reads` follows the reading of either form argument by argument, and
`Took` says what one argument may do to the language, one constructor for each way.

What carries the induction is `Standing`, whether the language was not named so far, is to be the
next argument, or is known.  An argument that names it is told by its beginning alone
(`isLang_iff_shape`), and no such argument can be the value of another option, since a value does
not look like an option.  Naming it twice goes unnoticed by the search and is refused by the
reading, though only when the second one is settled (`Doomed`).
-/
import CheckMatrix.CommandLine.Reader
import CheckMatrix.Proofs.Fallible
import Mathlib.Data.List.TakeWhile

namespace CheckMatrix

/-! ### Arguments that name the language -/

/-- The argument names the language, or announces it. -/
def IsLang (arg : String) : Prop :=
  arg = "--lang" ∨ ∃ value, arg = "--lang=" ++ value

theorem takeWhile_of_notMem {name : List Char} (h : '=' ∉ name) (rest : List Char) :
    (name ++ rest).takeWhile (· ≠ '=') = name ++ rest.takeWhile (· ≠ '=') := by
  refine List.takeWhile_append_of_pos fun c hc => decide_eq_true ?_
  rintro rfl
  exact h hc

theorem cutAtEquals_name {name : List Char} (h : '=' ∉ name) :
    cutAtEquals name = (String.ofList name, none) := by
  have htake := takeWhile_of_notMem h []
  rw [List.append_nil, List.takeWhile_nil, List.append_nil] at htake
  simp only [cutAtEquals, htake, Nat.lt_irrefl, if_false]

theorem cutAtEquals_append {name : List Char} (h : '=' ∉ name) (value : List Char) :
    cutAtEquals (name ++ '=' :: value) = (String.ofList name, some (String.ofList value)) := by
  have htake := takeWhile_of_notMem h ('=' :: value)
  rw [List.takeWhile_cons_of_neg (by simp), List.append_nil] at htake
  have hlength : name.length < (name ++ '=' :: value).length := by simp
  have hdrop : (name ++ '=' :: value).drop (name.length + 1) = value := by
    simp [List.drop_append]
  simp only [cutAtEquals, htake, if_pos hlength, hdrop]

/-- Cutting loses nothing but the equals sign. -/
theorem eq_of_cutAtEquals {text : List Char} {name : String} {value : Option String}
    (h : cutAtEquals text = (name, value)) :
    text = name.toList ++ (value.map fun v => '=' :: v.toList).getD [] := by
  by_cases hmem : '=' ∈ text
  · obtain ⟨front, rest, rfl, hfront⟩ := List.eq_append_cons_of_mem hmem
    rw [cutAtEquals_append hfront] at h
    cases h
    simp
  · rw [cutAtEquals_name hmem] at h
    cases h
    simp

theorem shape_eq_long {arg name : String} {value : Option String}
    (h : Shape.ofText arg.toList = .long name value) :
    arg.toList = '-' :: '-' :: (name.toList ++ (value.map fun v => '=' :: v.toList).getD []) := by
  unfold Shape.ofText at h
  split at h
  · cases h
  · rename_i rest _ htext
    cases hcut : cutAtEquals rest with
    | mk name' value' =>
        simp only [hcut] at h
        cases h
        rw [htext, eq_of_cutAtEquals hcut]
  · cases h
  · cases h
  · cases h

/-- Letters come behind a hyphen, one at least. -/
theorem ne_nil_of_shape_letters {arg : String} {letters : List Char}
    (h : Shape.ofText arg.toList = .letters letters) : letters ≠ [] := by
  unfold Shape.ofText at h
  split at h
  · cases h
  · cases h
  · cases h
  · rename_i rest _ _ hne _
    cases h
    exact hne
  · cases h

theorem shape_lang : Shape.ofText "--lang".toList = .long "lang" none := by
  decide

theorem shape_lang_value (value : String) :
    Shape.ofText ("--lang=" ++ value).toList = .long "lang" (some value) := by
  have htext : ("--lang=" ++ value).toList =
      '-' :: '-' :: (['l', 'a', 'n', 'g'] ++ '=' :: value.toList) := by simp
  have hname : '=' ∉ ['l', 'a', 'n', 'g'] := by decide
  have hcut := cutAtEquals_append hname value.toList
  rw [htext, Shape.ofText]
  · rw [hcut]
    simp
  · simp

theorem isLang_iff_shape {arg : String} :
    IsLang arg ↔ ∃ value, Shape.ofText arg.toList = .long "lang" value := by
  constructor
  · rintro (rfl | ⟨value, rfl⟩)
    · exact ⟨none, shape_lang⟩
    · exact ⟨some value, shape_lang_value value⟩
  · rintro ⟨value, h⟩
    have htext := shape_eq_long h
    cases value with
    | none => exact .inl (String.toList_inj.1 (htext.trans (by decide)))
    | some value => exact .inr ⟨value, String.toList_inj.1 (htext.trans (by simp))⟩

theorem not_isLang_of_shape {arg : String} {shape : Shape} (h : Shape.ofText arg.toList = shape)
    (hne : ∀ value, shape ≠ .long "lang" value) : ¬ IsLang arg := by
  rw [isLang_iff_shape]
  rintro ⟨value, hvalue⟩
  exact hne value (h.symm.trans hvalue)

/-- What some arguments say about the language: nothing, or its name once, in an argument of its own
or behind an equals sign. -/
inductive Tells : List String → Option String → Prop
  | nothing {args : List String} (h : ∀ arg ∈ args, ¬ IsLang arg) : Tells args none
  | apart {front rest : List String} {value : String} (hfront : ∀ arg ∈ front, ¬ IsLang arg)
      (hvalue : ¬ IsLang value) (hrest : ∀ arg ∈ rest, ¬ IsLang arg) :
      Tells (front ++ "--lang" :: value :: rest) (some value)
  | attached {front rest : List String} {value : String} (hfront : ∀ arg ∈ front, ¬ IsLang arg)
      (hrest : ∀ arg ∈ rest, ¬ IsLang arg) :
      Tells (front ++ ("--lang=" ++ value) :: rest) (some value)

/-! ### What is known of the language -/

/-- How it stands with the language while a command line is read. -/
inductive Standing
  | silent
  | awaited
  | told (value : String)
  deriving DecidableEq, Repr

namespace Progress

variable {page : HelpPage} {options : List OptionName} {s settled s' : Progress} {o : OptionName}
  {value : Option String}

/-- How it stands with the language after what was read so far. -/
def standing (s : Progress) : Standing :=
  match s.pending with
  | some (.lang, none) => .awaited
  | some (.lang, some value) => .told value
  | _ => ((s.value? .lang).map .told).getD .silent

theorem standing_of_pending (h : ∀ value, s.pending ≠ some (.lang, value)) :
    s.standing = ((s.value? .lang).map .told).getD .silent := by
  obtain ⟨given, pending⟩ := s
  cases pending with
  | none => rfl
  | some waiting =>
      obtain ⟨o, value⟩ := waiting
      cases o with
      | lang => exact absurd rfl (h value)
      | _ => rfl

theorem hasGiven_eq_isSome (s : Progress) (o : OptionName) :
    s.hasGiven o = (s.given.lookup o).isSome := by
  rw [Bool.eq_iff_iff, List.lookup_isSome_iff, hasGiven, List.any_eq_true]
  simp only [decide_eq_true_eq, beq_iff_eq]
  exact exists_congr fun e => and_congr_right fun _ => eq_comm

theorem accept_eq_ok (h : s.accept page o value = .ok s') :
    s' = { s with given := s.given ++ [(o, value)] } ∧
      (o.isRepeatable = false → s.hasGiven o = false) := by
  unfold accept at h
  split at h
  · cases h
  split at h
  · cases h
  split at h
  · cases h
  rename_i hgiven
  split at h
  · cases h
  cases h
  exact ⟨rfl, fun honce => by simpa [honce] using hgiven⟩

/-- Another option does not touch the language, -/
theorem value?_accept_of_ne (h : s.accept page o value = .ok s') (ho : o ≠ .lang) :
    s'.pending = s.pending ∧ s'.value? .lang = s.value? .lang := by
  obtain ⟨rfl, -⟩ := accept_eq_ok h
  have hother : (OptionName.lang == o) = false := by simpa using ho.symm
  refine ⟨rfl, ?_⟩
  simp only [value?, List.lookup_append, List.lookup_cons, hother, List.lookup_nil, Option.or_none]

/-- and the language is accepted once. -/
theorem value?_accept_lang (h : s.accept page .lang value = .ok s') :
    s'.pending = s.pending ∧ s.value? .lang = none ∧ s'.value? .lang = value ∧
      s'.hasGiven .lang = true := by
  obtain ⟨rfl, honce⟩ := accept_eq_ok h
  have hnew : s.given.lookup .lang = none := by
    rw [← Option.not_isSome_iff_eq_none, ← hasGiven_eq_isSome, honce rfl]
    simp
  refine ⟨rfl, ?_, ?_, ?_⟩
  · rw [value?, hnew]
    rfl
  · simp [value?, List.lookup_append, hnew]
  · rw [hasGiven_eq_isSome]
    simp [List.lookup_append, hnew]

/-- Settling an option changes nothing about the language, and does not leave it open. -/
theorem standing_settle (h : s.settle page = .ok settled) :
    settled.pending = none ∧ settled.standing = s.standing ∧ s.standing ≠ .awaited := by
  unfold settle at h
  split at h
  · rename_i hnone
    cases h
    refine ⟨hnone, rfl, ?_⟩
    rw [standing_of_pending (by simp [hnone])]
    cases s.value? .lang <;> simp
  · cases h
  · rename_i o value hpending
    by_cases ho : o = .lang
    · subst ho
      obtain ⟨hsettled, -, hvalue, -⟩ := value?_accept_lang h
      have hstanding : s.standing = .told value := by
        rw [standing, hpending]
      refine ⟨hsettled, ?_, by simp [hstanding]⟩
      rw [standing_of_pending (by simp [hsettled]), hvalue, hstanding]
      rfl
    · obtain ⟨hsettled, hvalue⟩ := value?_accept_of_ne h ho
      have hstanding : s.standing = ((s.value? .lang).map .told).getD .silent :=
        standing_of_pending (by simp [hpending, ho])
      refine ⟨hsettled, ?_, ?_⟩
      · rw [standing_of_pending (by simp [hsettled]), hvalue, hstanding]
        rfl
      · rw [hstanding]
        cases s.value? .lang <;> simp

theorem take_eq_ok (h : s.take page o value = .ok s') :
    ∃ settled, s.settle page = .ok settled ∧ settled.accept page o value = .ok s' :=
  bind_eq_ok_iff.1 h

theorem await_eq_ok (h : s.await page o = .ok s') :
    ∃ settled, s.settle page = .ok settled ∧ s' = { settled with pending := some (o, none) } := by
  obtain ⟨settled, hsettled, heq⟩ := bind_eq_ok_iff.1 h
  cases heq
  exact ⟨settled, hsettled, rfl⟩

/-- An option other than the language settles the one in front of it and leaves the language
alone. -/
def Skips (s : Progress) (page : HelpPage) (s' : Progress) : Prop :=
  ∃ settled, s.settle page = .ok settled ∧ s'.standing = settled.standing ∧ s'.hasOption = true

theorem hasOption_of_pending (h : s.pending = some (o, value)) : s.hasOption = true := by
  simp [hasOption, h]

theorem hasOption_of_accept (h : s.accept page o value = .ok s') : s'.hasOption = true := by
  obtain ⟨rfl, -⟩ := accept_eq_ok h
  simp [hasOption]

theorem skips_take (h : s.take page o value = .ok s') (ho : o ≠ .lang) : s.Skips page s' := by
  obtain ⟨settled, hsettled, haccept⟩ := take_eq_ok h
  obtain ⟨hpending, hvalue⟩ := value?_accept_of_ne haccept ho
  obtain ⟨hnone, -, -⟩ := standing_settle hsettled
  refine ⟨settled, hsettled, ?_, hasOption_of_accept haccept⟩
  rw [standing_of_pending (by simp [hpending, hnone]), standing_of_pending (by simp [hnone]), hvalue]

theorem skips_await (h : s.await page o = .ok s') (ho : o ≠ .lang) : s.Skips page s' := by
  obtain ⟨settled, hsettled, rfl⟩ := await_eq_ok h
  obtain ⟨hnone, -, -⟩ := standing_settle hsettled
  refine ⟨settled, hsettled, ?_, hasOption_of_pending rfl⟩
  rw [standing_of_pending (by simp [ho]), standing_of_pending (by simp [hnone])]
  rfl

theorem Skips.trans {s'' : Progress} (h : s.Skips page s') (h' : s'.Skips page s'') :
    s.Skips page s'' := by
  obtain ⟨settled, hsettled, hstanding, -⟩ := h
  obtain ⟨settled', hsettled', hstanding', hoption⟩ := h'
  exact ⟨settled, hsettled, hstanding'.trans ((standing_settle hsettled').2.1.trans hstanding),
    hoption⟩

theorem eq_lang_of_long (h : o.long = "lang") : o = .lang := by
  cases o <;> first | rfl | exact absurd h (by decide)

theorem skips_readLong {name : String} (h : s.readLong page options name value = .ok s')
    (hname : name ≠ "lang") : s.Skips page s' := by
  unfold readLong at h
  split at h
  · cases h
  rename_i o hfind
  have ho : o ≠ .lang := by
    rintro rfl
    have hlong := List.find?_some hfind
    exact hname (of_decide_eq_true hlong).symm
  split at h
  · split at h
    · exact skips_take h ho
    · cases h
  · split at h
    · exact skips_await h ho
    · exact skips_take h ho

/-- The first of some letters is an option that is not the language; the others are read behind it,
unless they are its value. -/
theorem skips_readLetters_cons {c : Char} {rest : List Char}
    (h : s.readLetters page options (c :: rest) = .ok s') :
    s.Skips page s' ∨
      ∃ behind, s.Skips page behind ∧ behind.readLetters page options rest = .ok s' := by
  unfold readLetters at h
  split at h
  · cases h
  rename_i o hfind
  have ho : o ≠ .lang := by
    rintro rfl
    have hletter := List.find?_some hfind
    cases of_decide_eq_true hletter
  split at h
  · left
    split at h
    · exact skips_await h ho
    · exact skips_take h ho
    · exact skips_take h ho
  · obtain ⟨behind, htake, hrest⟩ := bind_eq_ok_iff.1 h
    exact .inr ⟨behind, skips_take htake ho, hrest⟩

theorem skips_readLetters {letters : List Char}
    (h : s.readLetters page options letters = .ok s') (hne : letters ≠ []) : s.Skips page s' := by
  induction letters generalizing s with
  | nil => exact absurd rfl hne
  | cons c rest ih =>
      rcases skips_readLetters_cons h with hskips | ⟨behind, hskips, hrest⟩
      · exact hskips
      · cases rest with
        | nil =>
            cases hrest
            exact hskips
        | cons d rest => exact hskips.trans (ih hrest (by simp))

end Progress

/-! ### Arguments one after the other -/

/-- What an argument does to the language. -/
inductive Took (page : HelpPage) (s : Progress) (arg : String) : Progress → Prop
  /-- It is the value that an option waits for. -/
  | value {o : OptionName} (hpending : s.pending = some (o, none)) (harg : ¬ IsLang arg) :
      Took page s arg { s with pending := some (o, some arg) }
  /-- It announces the language. -/
  | announces {settled : Progress} (hsettled : s.settle page = .ok settled)
      (harg : arg = "--lang") : Took page s arg { settled with pending := some (.lang, none) }
  /-- It names the language. -/
  | names {settled s' : Progress} {value : String} (hsettled : s.settle page = .ok settled)
      (harg : arg = "--lang=" ++ value)
      (haccept : settled.accept page .lang (some value) = .ok s') : Took page s arg s'
  /-- It is about something else. -/
  | skips {s' : Progress} (harg : ¬ IsLang arg) (hskips : s.Skips page s') : Took page s arg s'

section Reading

variable {page : HelpPage} {options : List OptionName} {s s' after : Progress} {arg : String}
  {args : List String}

theorem took_lang {value : Option String}
    (hshape : Shape.ofText arg.toList = .long "lang" value)
    (h : s.readLong page options "lang" value = .ok s') : Took page s arg s' := by
  have htext := shape_eq_long hshape
  unfold Progress.readLong at h
  split at h
  · cases h
  rename_i o hfind
  have hlong := List.find?_some hfind
  obtain rfl := Progress.eq_lang_of_long (of_decide_eq_true hlong)
  cases value with
  | none =>
      obtain ⟨settled, hsettled, rfl⟩ := Progress.await_eq_ok h
      exact .announces hsettled (String.toList_inj.1 (htext.trans (by decide)))
  | some value =>
      obtain ⟨settled, hsettled, haccept⟩ := Progress.take_eq_ok h
      exact .names hsettled (String.toList_inj.1 (htext.trans (by simp))) haccept

/-- An argument that the reading goes on behind does one of four things. -/
theorem took_of_readArgument (h : readArgument page options s arg = .ok (.on s')) :
    Took page s arg s' := by
  unfold readArgument at h
  split at h
  · cases h
  · rename_i name value hshape
    obtain ⟨behind, hread, hon⟩ := map_eq_ok_iff.1 h
    cases hon
    by_cases hname : name = "lang"
    · subst hname
      exact took_lang hshape hread
    · refine .skips (not_isLang_of_shape hshape ?_) (Progress.skips_readLong hread hname)
      rintro value' ⟨⟩
      exact hname rfl
  · rename_i letters hshape
    obtain ⟨behind, hread, hon⟩ := map_eq_ok_iff.1 h
    cases hon
    exact .skips (not_isLang_of_shape hshape (by simp))
      (Progress.skips_readLetters hread (ne_nil_of_shape_letters hshape))
  · rename_i hshape
    split at h
    · rename_i o hpending
      cases h
      exact .value hpending (not_isLang_of_shape hshape (by simp))
    · cases h

/-- Arguments are read one after the other, up to the end of the options or of the arguments. -/
inductive Reads (page : HelpPage) (options : List OptionName) :
    Progress → List String → Progress → Prop
  | done {s after : Progress} (h : s.settle page = .ok after) : Reads page options s [] after
  | ended {s after : Progress} {arg : String} (harg : Shape.ofText arg.toList = .endOfOptions)
      (h : s.settle page = .ok after) : Reads page options s [arg] after
  | next {s s' after : Progress} {arg : String} {rest : List String} (h : Took page s arg s')
      (hrest : Reads page options s' rest after) : Reads page options s (arg :: rest) after

/-- The language was given and is named once more. -/
def Progress.Doomed (s : Progress) : Prop :=
  s.hasGiven .lang = true ∧ ∃ value, s.pending = some (.lang, value)

theorem Progress.Doomed.settle (h : s.Doomed) {settled : Progress} :
    s.settle page ≠ .ok settled := by
  obtain ⟨hgiven, value, hpending⟩ := h
  intro hsettled
  unfold Progress.settle at hsettled
  rw [hpending] at hsettled
  cases value with
  | none => cases hsettled
  | some value =>
      have honce := (Progress.accept_eq_ok hsettled).2 rfl
      have hsame : Progress.hasGiven { s with pending := none } .lang = s.hasGiven .lang := rfl
      rw [hsame, hgiven] at honce
      cases honce

/-- No command line is read that names the language twice. -/
theorem Progress.Doomed.not_reads (h : s.Doomed) : ¬ Reads page options s args after := by
  intro hreads
  induction hreads with
  | done hsettled => exact h.settle hsettled
  | ended _ hsettled => exact h.settle hsettled
  | next htook _ ih =>
      cases htook with
      | value hpending =>
          obtain ⟨hgiven, value, hlang⟩ := h
          rw [hlang] at hpending
          cases hpending
          exact ih ⟨hgiven, _, rfl⟩
      | announces hsettled => exact h.settle hsettled
      | names hsettled => exact h.settle hsettled
      | skips _ hskips =>
          obtain ⟨settled, hsettled, -⟩ := hskips
          exact h.settle hsettled

/-- What the arguments that are still to be read say about the language. -/
def Standing.Leaves : Standing → List String → Option String → Prop
  | .silent, args, lang => Tells args lang
  | .awaited, args, lang => ∃ value rest, args = value :: rest ∧ ¬ IsLang value ∧
      (∀ arg ∈ rest, ¬ IsLang arg) ∧ lang = some value
  | .told value, args, lang => (∀ arg ∈ args, ¬ IsLang arg) ∧ lang = some value

theorem Tells.cons {lang : Option String} (h : Tells args lang) (harg : ¬ IsLang arg) :
    Tells (arg :: args) lang := by
  cases h with
  | nothing h => exact .nothing (List.forall_mem_cons.2 ⟨harg, h⟩)
  | apart hfront hvalue hrest => exact .apart (List.forall_mem_cons.2 ⟨harg, hfront⟩) hvalue hrest
  | attached hfront hrest => exact .attached (List.forall_mem_cons.2 ⟨harg, hfront⟩) hrest

/-- An argument about something else makes no difference, unless the language is to be next. -/
theorem Standing.Leaves.cons {standing : Standing} {lang : Option String}
    (h : standing.Leaves args lang) (hopen : standing ≠ .awaited) (harg : ¬ IsLang arg) :
    standing.Leaves (arg :: args) lang := by
  cases standing with
  | silent => exact Tells.cons h harg
  | awaited => exact absurd rfl hopen
  | told value => exact ⟨List.forall_mem_cons.2 ⟨harg, h.1⟩, h.2⟩

/-- Once everything is settled, the language is what it stands at. -/
theorem leaves_of_settle (h : s.settle page = .ok after) (hargs : ∀ arg ∈ args, ¬ IsLang arg) :
    s.standing.Leaves args (after.value? .lang) := by
  obtain ⟨hnone, hstanding, -⟩ := Progress.standing_settle h
  rw [← hstanding, Progress.standing_of_pending (by simp [hnone])]
  cases after.value? .lang with
  | none => exact Tells.nothing hargs
  | some value => exact ⟨hargs, rfl⟩

/-- **What is read of the language is what the arguments say.** -/
theorem Reads.leaves (h : Reads page options s args after) :
    s.standing.Leaves args (after.value? .lang) := by
  induction h with
  | done h => exact leaves_of_settle h (List.forall_mem_nil _)
  | ended harg h =>
      exact leaves_of_settle h (List.forall_mem_singleton.2 (not_isLang_of_shape harg (by simp)))
  | @next s s' after arg rest htook hrest ih =>
      cases htook with
      | @value o hpending harg =>
          by_cases ho : o = .lang
          · subst ho
            obtain ⟨hothers, hvalue⟩ := ih
            have hstanding : s.standing = .awaited := by rw [Progress.standing, hpending]
            rw [hstanding]
            exact ⟨arg, rest, rfl, harg, hothers, hvalue⟩
          · have hstanding : s.standing = ((s.value? .lang).map .told).getD .silent :=
              Progress.standing_of_pending (by simp [hpending, ho])
            rw [Progress.standing_of_pending (by simp [ho])] at ih
            rw [hstanding]
            refine Standing.Leaves.cons ih ?_ harg
            cases s.value? .lang <;> simp
      | @announces settled hsettled harg =>
          obtain ⟨value, others, rfl, hvalue, hothers, hlang⟩ := ih
          obtain ⟨hnone, hsame, -⟩ := Progress.standing_settle hsettled
          rw [Progress.standing_of_pending (by simp [hnone])] at hsame
          cases hgiven : settled.value? .lang with
          | none =>
              rw [← hsame, hgiven, hlang, harg]
              exact @Tells.apart [] others value (List.forall_mem_nil _) hvalue hothers
          | some before =>
              -- the reading goes on for now, but cannot end
              refine absurd hrest (Progress.Doomed.not_reads ⟨?_, none, rfl⟩)
              rw [Progress.hasGiven_eq_isSome]
              cases hlookup : settled.given.lookup .lang with
              | none => simp [Progress.value?, hlookup] at hgiven
              | some given => rfl
      | @names settled _ value hsettled harg haccept =>
          obtain ⟨hnone, hsame, -⟩ := Progress.standing_settle hsettled
          obtain ⟨hpending, hfirst, hvalue, -⟩ := Progress.value?_accept_lang haccept
          rw [Progress.standing_of_pending (by simp [hpending, hnone]), hvalue] at ih
          obtain ⟨hothers, hlang⟩ := ih
          rw [← hsame, Progress.standing_of_pending (by simp [hnone]), hfirst, hlang, harg]
          exact @Tells.attached [] rest value (List.forall_mem_nil _) hothers
      | skips harg hskips =>
          obtain ⟨settled, hsettled, hstanding, -⟩ := hskips
          obtain ⟨-, hsame, hopen⟩ := Progress.standing_settle hsettled
          rw [hstanding, hsame] at ih
          exact ih.cons hopen harg

/-! ### The two forms -/

/-- Behind an argument that was read there is an option. -/
theorem Took.hasOption (h : Took page s arg s') : s'.hasOption = true := by
  cases h with
  | value => exact Progress.hasOption_of_pending rfl
  | announces => exact Progress.hasOption_of_pending rfl
  | names _ _ haccept => exact Progress.hasOption_of_accept haccept
  | skips _ hskips =>
      obtain ⟨_, -, -, hoption⟩ := hskips
      exact hoption

theorem shape_of_endOfOptions (h : readArgument page options s arg = .ok .endOfOptions) :
    Shape.ofText arg.toList = .endOfOptions := by
  unfold readArgument at h
  split at h
  · assumption
  · obtain ⟨_, -, hon⟩ := map_eq_ok_iff.1 h
    cases hon
  · obtain ⟨_, -, hon⟩ := map_eq_ok_iff.1 h
    cases hon
  · split at h <;> cases h

theorem reads_of_readInitForm {o : InitOptions} (h : readInitForm false s args = .ok o) :
    ∃ after, Reads .init initFormOptions s args after ∧ o = initOptions after := by
  induction args generalizing s with
  | nil =>
      obtain ⟨after, hsettled, rfl⟩ := map_eq_ok_iff.1 h
      exact ⟨after, .done hsettled, rfl⟩
  | cons arg rest ih =>
      unfold readInitForm at h
      split at h
      · cases h
      · rename_i s' hread
        obtain ⟨after, hreads, rfl⟩ := ih h
        exact ⟨after, .next (took_of_readArgument hread) hreads, rfl⟩
      · rename_i hread
        cases rest with
        | nil =>
            obtain ⟨after, hsettled, rfl⟩ := map_eq_ok_iff.1 h
            exact ⟨after, .ended (shape_of_endOfOptions hread) hsettled, rfl⟩
        | cons other rest => cases h
      · cases h

theorem reads_of_readRunForm {i : Invocation}
    (hform : s.hasOption = true ∨ ∀ word ∈ args.head?, isFormWord word = false)
    (h : readRunForm false s args = .ok i) :
    ∃ after, Reads .run runFormOptions s args after ∧ i = .run (runOptions after) := by
  induction args generalizing s with
  | nil =>
      obtain ⟨after, hsettled, rfl⟩ := map_eq_ok_iff.1 h
      exact ⟨after, .done hsettled, rfl⟩
  | cons arg rest ih =>
      have hinit : (!s.hasOption && decide (arg = initWord)) = false := by
        rcases hform with hoption | hword
        · simp [hoption]
        · simp [(Bool.or_eq_false_iff.1 (hword arg rfl)).1]
      have hhelp : (!s.hasOption && decide (arg = helpWord)) = false := by
        rcases hform with hoption | hword
        · simp [hoption]
        · simp [(Bool.or_eq_false_iff.1 (hword arg rfl)).2]
      unfold readRunForm at h
      simp only [hinit, hhelp, Bool.false_eq_true, if_false] at h
      split at h
      · cases h
      · rename_i s' hread
        have htook := took_of_readArgument hread
        obtain ⟨after, hreads, rfl⟩ := ih (.inl htook.hasOption) h
        exact ⟨after, .next htook hreads, rfl⟩
      · rename_i hread
        cases rest with
        | nil =>
            obtain ⟨after, hsettled, rfl⟩ := map_eq_ok_iff.1 h
            exact ⟨after, .ended (shape_of_endOfOptions hread) hsettled, rfl⟩
        | cons other rest => cases h
      · cases h

/-- A command line that is read is read in one of the two forms. -/
theorem reads_of_readCommandLine {i : Invocation} (h : readCommandLine args = .ok i) :
    (∃ after, Reads .run runFormOptions .empty args after ∧ i = .run (runOptions after)) ∨
      ∃ rest after, args = initWord :: rest ∧ Reads .init initFormOptions .empty rest after ∧
        i = .init (initOptions after) := by
  unfold readCommandLine at h
  by_cases hform : ∀ word ∈ args.head?, isFormWord word = false
  · exact .inl (reads_of_readRunForm (.inr hform) h)
  · cases args with
    | nil => exact absurd (by simp) hform
    | cons word rest =>
        unfold readRunForm at h
        by_cases hinit : word = initWord
        · subst hinit
          obtain ⟨o, hread, rfl⟩ := map_eq_ok_iff.1 h
          obtain ⟨after, hreads, rfl⟩ := reads_of_readInitForm hread
          exact .inr ⟨rest, after, rfl, hreads, rfl⟩
        · have hhelp : word = helpWord := by
            by_contra hhelp
            exact hform (by simp [isFormWord, hinit, hhelp])
          subst hhelp
          cases h

/-- What the arguments of a command line that is read say about the language is what is read. -/
theorem tells_of_readCommandLine {i : Invocation} (h : readCommandLine args = .ok i) :
    Tells args i.lang := by
  rcases reads_of_readCommandLine h with ⟨after, hreads, rfl⟩ | ⟨rest, after, rfl, hreads, rfl⟩
  · exact hreads.leaves
  · have hrest : Tells rest (after.value? .lang) := hreads.leaves
    have hword : Shape.ofText initWord.toList = .word := by decide
    exact hrest.cons (not_isLang_of_shape hword (by simp))

end Reading

/-! ### The search -/

/-- What stands behind the equals sign of an argument that names the language. -/
def attached? (arg : String) : Option String :=
  if "--lang=".toList.isPrefixOf arg.toList then
    some (String.ofList (arg.toList.drop "--lang=".length))
  else none

theorem attached?_eq_none {arg : String} (h : ¬ IsLang arg) : attached? arg = none := by
  refine if_neg fun hprefix => h (.inr ?_)
  obtain ⟨value, hvalue⟩ := List.isPrefixOf_iff_prefix.1 hprefix
  exact ⟨String.ofList value, String.toList_inj.1 (by rw [← hvalue]; simp)⟩

theorem attached?_append (value : String) : attached? ("--lang=" ++ value) = some value := by
  have hprefix : "--lang=".toList.isPrefixOf ("--lang=" ++ value).toList = true := by simp
  have hdrop : ("--lang=" ++ value).toList.drop "--lang=".length = value.toList := by
    rw [String.toList_append, ← String.length_toList, List.drop_left]
  rw [attached?, if_pos hprefix, hdrop, String.ofList_toList]

theorem dropWhile_append_of_not_isLang {front : List String} (h : ∀ arg ∈ front, ¬ IsLang arg)
    (rest : List String) :
    (front ++ rest).dropWhile (· ≠ "--lang") = rest.dropWhile (· ≠ "--lang") :=
  List.dropWhile_append_of_pos fun arg harg => decide_eq_true fun heq => h arg harg (.inl heq)

theorem languageAhead_of_attached {args : List String}
    (h : args.dropWhile (· ≠ "--lang") = []) : languageAhead args = args.findSome? attached? := by
  rw [languageAhead, h]
  rfl

/-- The search finds what the arguments say. -/
theorem Tells.languageAhead_eq {args : List String} {lang : Option String} (h : Tells args lang) :
    languageAhead args = lang := by
  cases h with
  | nothing h =>
      have hdrop := dropWhile_append_of_not_isLang h []
      rw [List.append_nil, List.dropWhile_nil] at hdrop
      rw [languageAhead_of_attached hdrop, List.findSome?_eq_none_iff]
      exact fun arg harg => attached?_eq_none (h arg harg)
  | @apart front rest value hfront hvalue hrest =>
      rw [languageAhead, dropWhile_append_of_not_isLang hfront,
        List.dropWhile_cons_of_neg (by simp)]
      rfl
  | @attached front rest value hfront hrest =>
      have hne : "--lang=" ++ value ≠ "--lang" := by
        intro heq
        have hlength := congrArg String.length heq
        have hshort : "--lang".length < "--lang=".length := by decide
        rw [String.length_append] at hlength
        omega
      have hdrop : (front ++ ("--lang=" ++ value) :: rest).dropWhile (· ≠ "--lang") = [] := by
        rw [dropWhile_append_of_not_isLang hfront, List.dropWhile_cons_of_pos (by simpa using hne),
          ← List.append_nil rest, dropWhile_append_of_not_isLang hrest, List.dropWhile_nil]
      have hnone : front.findSome? attached? = none :=
        List.findSome?_eq_none_iff.2 fun arg harg => attached?_eq_none (hfront arg harg)
      rw [languageAhead_of_attached hdrop, List.findSome?_append, hnone, List.findSome?_cons,
        attached?_append]
      rfl

/-- **The search and the reading find the same language**, which is what the arguments say. -/
theorem languageAhead_eq_lang {args : List String} {i : Invocation}
    (h : readCommandLine args = .ok i) : languageAhead args = i.lang ∧ Tells args i.lang :=
  ⟨(tells_of_readCommandLine h).languageAhead_eq, tells_of_readCommandLine h⟩

/-! ### A language among other options -/

namespace Sample

/-- Letters in a row, values with hyphens in them, and the language behind them. -/
def crowdedArgs : List String :=
  ["-ewg--lang", "--config=--lang=de", "--lang", "zh-CN", "--list", "--"]

/-- What they ask for. -/
def crowdedOptions : RunOptions where
  selection := .ofFlags true true ["--lang"]
  config := .ofText "--lang=de"
  projectDir := .ofText "."
  list := true
  lang := some "zh-CN"

theorem languageAhead_crowded :
    readCommandLine crowdedArgs = .ok (.run crowdedOptions) ∧
      languageAhead crowdedArgs = some "zh-CN" ∧ Tells crowdedArgs (some "zh-CN") := by
  have hread : readCommandLine crowdedArgs = .ok (.run crowdedOptions) :=
    eq_ok_of_toOption (by decide +kernel)
  exact ⟨hread, languageAhead_eq_lang hread⟩

end Sample

end CheckMatrix
