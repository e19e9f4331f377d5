/-
Written command lines read back.

Writing cuts a word into runs, and each run is written in a way that suits all its characters
(`Suits`), so reading it gives the run back and leaves the reader in bare text, wherever it stood
before (`reads_writeRun`).  Reading adds up over runs, and a blank ends a word, so a line of written
words has these words (`splitGlyphs_written`).

More is true than that: every dollar sign and every tilde of a word is kept literal, and no comment
is opened.  The first is what keeps a line from being filled in when it is planned, the second what
lets the marker follow the reader.
-/
import CheckMatrix.Proofs.Text.Quoting

namespace CheckMatrix.Words

/-! ### Reading within a word -/

/-- Reading a text takes the reader from one place to another within a word and adds tagged
characters to it. -/
inductive Reads : Place → List Char → Place → List Glyph → Prop
  | nil {place : Place} : Reads place [] place []
  | skip {place next after : Place} {c : Char} {rest : List Char} {gs : List Glyph}
      (h : place.next c = (next, .skip)) (hnext : next ≠ .comment)
      (hrest : Reads next rest after gs) : Reads place (c :: rest) after gs
  | add {place next after : Place} {c : Char} {text rest : List Char} {gs : List Glyph}
      (h : place.next c = (next, .add text)) (hnext : next ≠ .comment)
      (hrest : Reads next rest after gs) : Reads place (c :: rest) after (place.tag text ++ gs)

namespace Reads

theorem append {place middle after : Place} {first second : List Char} {gs gs' : List Glyph}
    (h : Reads place first middle gs) (h' : Reads middle second after gs') :
    Reads place (first ++ second) after (gs ++ gs') := by
  induction h with
  | nil => exact h'
  | skip h hnext _ ih => exact .skip h hnext (ih h')
  | add h hnext _ ih =>
      rw [List.append_assoc]
      exact .add h hnext (ih h')

/-- The tagged words go on where the reading ends. -/
theorem glyphsFrom {place after : Place} {text : List Char} {gs : List Glyph}
    (h : Reads place text after gs) (word : List Glyph) (tail : List Char) :
    glyphsFrom place word (text ++ tail) = Words.glyphsFrom after (word ++ gs) tail := by
  induction h generalizing word with
  | nil => rw [List.append_nil, List.nil_append]
  | skip h _ _ ih =>
      rw [List.cons_append, glyphsFrom_cons, h]
      exact ih word
  | add h _ _ ih =>
      rw [List.cons_append, glyphsFrom_cons, h, ← List.append_assoc]
      exact ih _

theorem uncommented {place after : Place} {text : List Char} {gs : List Glyph}
    (h : Reads place text after gs) {tail : List Char} (htail : Uncommented after tail) :
    Uncommented place (text ++ tail) := by
  induction h with
  | nil => exact htail
  | skip h hnext _ ih => exact ⟨by rw [h]; exact hnext, by rw [h]; exact ih htail⟩
  | add h hnext _ ih => exact ⟨by rw [h]; exact hnext, by rw [h]; exact ih htail⟩

end Reads

/-! ### Runs -/

/-- The characters of a word, dollar signs and tildes being literal. -/
def literally (word : List Char) : List Glyph :=
  word.map fun c => ⟨c, c = '$' || c = '~'⟩

theorem literally_append (first second : List Char) :
    literally (first ++ second) = literally first ++ literally second :=
  List.map_append ..

namespace Ways

/-- A character can be written in every way that is left. -/
structure Allow (ways : Ways) (c : Char) : Prop where
  bare : ways.bare = true → isPlain c = true
  single : ways.single = true → c ≠ '\''
  double : ways.double = true → c ≠ '$'

theorem Allow.both_left {v : Ways} {c : Char} (h : v.Allow c) (w : Ways) : (v.both w).Allow c :=
  ⟨fun hways => h.bare (Bool.and_eq_true_iff.1 hways).1,
    fun hways => h.single (Bool.and_eq_true_iff.1 hways).1,
    fun hways => h.double (Bool.and_eq_true_iff.1 hways).1⟩

theorem Allow.both_right {w : Ways} {c : Char} (h : w.Allow c) (v : Ways) : (v.both w).Allow c :=
  ⟨fun hways => h.bare (Bool.and_eq_true_iff.1 hways).2,
    fun hways => h.single (Bool.and_eq_true_iff.1 hways).2,
    fun hways => h.double (Bool.and_eq_true_iff.1 hways).2⟩

theorem allow_ofChar (c : Char) : (ofChar c).Allow c := by
  refine ⟨id, ?_, ?_⟩
  · rintro hsingle rfl
    cases hsingle
  · rintro hdouble rfl
    cases hdouble

/-- A caret is the only character that has to begin a run. -/
theorem isNone_ofChar {c : Char} (hcaret : c ≠ '^') : (ofChar c).isNone = false := by
  simp only [ofChar, isNone]
  grind

end Ways

/-- A run that can be written in every way that is left, and there is one. -/
structure Suits (run : List Char) (ways : Ways) : Prop where
  nonempty : run ≠ []
  some : ways.isNone = false
  allow : ∀ c ∈ run, ways.Allow c

theorem suits_opening (c : Char) : Suits [c] (.opening c) := by
  have hallow : ∀ ways : Ways, ways.Allow c → ∀ d ∈ [c], ways.Allow d :=
    fun ways h d hd => List.mem_singleton.1 hd ▸ h
  by_cases hcaret : c = '^'
  · subst hcaret
    exact ⟨by decide, rfl, hallow _ ⟨by decide, by decide, by decide⟩⟩
  · have hopening : Ways.opening c = .ofChar c := if_neg hcaret
    rw [hopening]
    exact ⟨List.cons_ne_nil c [], Ways.isNone_ofChar hcaret, hallow _ (Ways.allow_ofChar c)⟩

theorem Suits.grow {run : List Char} {ways : Ways} (h : Suits run ways) {c : Char}
    (hshared : (ways.both (.ofChar c)).isNone = false) :
    Suits (run ++ [c]) (ways.both (.ofChar c)) := by
  refine ⟨List.append_ne_nil_of_left_ne_nil h.nonempty [c], hshared, fun d hd => ?_⟩
  rcases List.mem_append.1 hd with hd | hd
  · exact (h.allow d hd).both_left _
  · exact List.mem_singleton.1 hd ▸ (Ways.allow_ofChar c).both_right ways

/-! ### Reading what is written -/

/-- The places where a run can begin. -/
def Place.Open (place : Place) : Prop :=
  place = .gap ∨ place = .bare

/-- A plain character is taken as it is. -/
theorem Place.next_plain {place : Place} (hplace : place.Open) {c : Char}
    (hplain : isPlain c = true) : place.next c = (.bare, .add [c]) := by
  have hhash : c ≠ '#' := by
    rintro rfl
    cases hplain
  have hblank : isBlank c = false := by
    refine Bool.eq_false_iff.2 fun h => ?_
    simp only [isBlank, Bool.or_eq_true, decide_eq_true_eq] at h
    rcases h with (rfl | rfl) | rfl <;> cases hplain
  have hword : Place.inWord c = (.bare, .add [c]) := by
    unfold Place.inWord
    rw [if_neg, if_neg, if_neg] <;> rintro rfl <;> cases hplain
  rcases hplace with rfl | rfl <;> simp [Place.next, hhash, hblank, hword]

/-- A character that is added as itself, with the tag that it has in a word. -/
theorem Reads.one {place next after : Place} {c : Char} {rest : List Char} {gs : List Glyph}
    (h : place.next c = (next, .add [c])) (hnext : next ≠ .comment)
    (htag : place.keeps c = (c = '$' || c = '~')) (hrest : Reads next rest after gs) :
    Reads place (c :: rest) after (literally [c] ++ gs) := by
  have hliterally : literally [c] = place.tag [c] := by
    rw [literally, Place.tag, List.map_singleton, List.map_singleton, htag]
  rw [hliterally]
  exact .add h hnext hrest

/-- Behind a plain character the reader stands in bare text. -/
theorem Reads.plain {place : Place} (hplace : place.Open) {c : Char} (hplain : isPlain c = true)
    {rest : List Char} (hrest : Reads .bare rest .bare (literally rest)) :
    Reads place (c :: rest) .bare (literally (c :: rest)) := by
  refine .one (Place.next_plain hplace hplain) (by decide) ?_ hrest
  have hdollar : c ≠ '$' := by
    rintro rfl
    cases hplain
  have htilde : c ≠ '~' := by
    rintro rfl
    cases hplain
  rcases hplace with rfl | rfl <;> simp [Place.keeps, hdollar, htilde]

theorem reads_plain {run : List Char} (hplain : ∀ c ∈ run, isPlain c = true) :
    Reads .bare run .bare (literally run) := by
  induction run with
  | nil => exact .nil
  | cons c rest ih =>
      exact .plain (.inr rfl) (hplain c List.mem_cons_self)
        (ih fun d hd => hplain d (List.mem_cons_of_mem c hd))

theorem reads_single {run : List Char} (hquote : '\'' ∉ run) :
    Reads .single run .single (literally run) := by
  induction run with
  | nil => exact .nil
  | cons c rest ih =>
      have hc := List.ne_of_not_mem_cons hquote
      have hnext : Place.single.next c = (.single, .add [c]) := if_neg hc.symm
      exact .one hnext (by decide) rfl (ih (List.not_mem_of_not_mem_cons hquote))

/-- Within double quotes some characters are behind a backslash. -/
theorem reads_double {run : List Char} (hdollar : '$' ∉ run) :
    Reads .double (run.flatMap escapeDouble) .double (literally run) := by
  induction run with
  | nil => exact .nil
  | cons c rest ih =>
      have hc := List.ne_of_not_mem_cons hdollar
      have hrest := ih (List.not_mem_of_not_mem_cons hdollar)
      rw [List.flatMap_cons, escapeDouble]
      split
      · rename_i hescapable
        have hnext : Place.doubleEscape.next c = (.double, .add [c]) := by
          simp [Place.next, hescapable]
        exact .skip rfl (by decide) (.one hnext (by decide) rfl hrest)
      · rename_i hescapable
        have hnext : Place.double.next c = (.double, .add [c]) := by
          simp [isDoubleEscapable] at hescapable
          simp [Place.next, hescapable]
        refine .one hnext (by decide) ?_ hrest
        simp [Place.keeps, hc.symm]

/-- **A run that is written reads back**, wherever it can begin. -/
theorem reads_writeRun {run : List Char} {ways : Ways} (h : Suits run ways) {place : Place}
    (hplace : place.Open) : Reads place (writeRun run ways) .bare (literally run) := by
  have hquoted : ∀ {quote : Char} {inside : Place} {text : List Char},
      place.next quote = (inside, .skip) → inside ≠ .comment →
        inside.next quote = (.bare, .skip) → Reads inside text inside (literally run) →
          Reads place (quote :: (text ++ [quote])) .bare (literally run) := by
    intro quote inside text hopen hinside hclose hreads
    have hall := hreads.append (.skip hclose (by decide) .nil)
    rw [List.append_nil] at hall
    exact .skip hopen hinside hall
  unfold writeRun
  split
  · rename_i hbare
    have hplain : ∀ c ∈ run, isPlain c = true := fun c hc => (h.allow c hc).bare hbare
    obtain ⟨c, rest, rfl⟩ := List.exists_cons_of_ne_nil h.nonempty
    exact .plain hplace (hplain c List.mem_cons_self)
      (reads_plain fun d hd => hplain d (List.mem_cons_of_mem c hd))
  · rename_i hbare
    split
    · rename_i hsingle
      have hopen : place.next '\'' = (.single, .skip) := by
        rcases hplace with rfl | rfl <;> rfl
      have hquote : '\'' ∉ run := fun hmem => (h.allow _ hmem).single hsingle rfl
      exact hquoted hopen (by decide) rfl (reads_single hquote)
    · rename_i hsingle
      have hdouble : ways.double = true := by
        have hsome := h.some
        simp only [Ways.isNone, hbare, hsingle] at hsome
        simpa using hsome
      have hopen : place.next '"' = (.double, .skip) := by
        rcases hplace with rfl | rfl <;> rfl
      have hdollar : '$' ∉ run := fun hmem => (h.allow _ hmem).double hdouble rfl
      exact hquoted hopen (by decide) rfl (reads_double hdollar)

theorem reads_runs {text : List Char} :
    ∀ {run : List Char} {ways : Ways} {place : Place}, Suits run ways → place.Open →
      Reads place ((runs run ways text).flatMap fun r => writeRun r.1 r.2) .bare
        (literally (run ++ text)) := by
  induction text with
  | nil =>
      intro run ways place hsuits hplace
      rw [runs, List.flatMap_singleton, List.append_nil]
      exact reads_writeRun hsuits hplace
  | cons c rest ih =>
      intro run ways place hsuits hplace
      unfold runs
      simp only
      split
      · rw [List.flatMap_cons, literally_append]
        exact (reads_writeRun hsuits hplace).append (ih (suits_opening c) (.inr rfl))
      · rename_i hshared
        rw [List.append_cons run c rest]
        exact ih (hsuits.grow (Bool.eq_false_iff.2 hshared)) hplace

/-- **A written word reads back**, with its dollar signs and tildes literal. -/
theorem reads_quote (word : List Char) : Reads .gap (quote word) .bare (literally word) := by
  cases word with
  | nil => exact .skip rfl (by decide) (.skip rfl (by decide) .nil)
  | cons c rest => exact reads_runs (suits_opening c) (.inl rfl)

/-- No way of quoting suits both an apostrophe and a dollar sign. -/
example : quote "~it's $5".toList = "\"~it's \"'$5'".toList := by decide

/-! ### The characters that are written -/

section Characters

variable {p : Char → Prop}

theorem forall_writeRun (hquotes : p '\'' ∧ p '"' ∧ p '\\') {run : List Char} {ways : Ways}
    (h : ∀ c ∈ run, p c) : ∀ c ∈ writeRun run ways, p c := by
  obtain ⟨hsingle, hdouble, hslash⟩ := hquotes
  unfold writeRun escapeDouble
  intro c hc
  grind

theorem forall_runs (hquotes : p '\'' ∧ p '"' ∧ p '\\') {text : List Char} :
    ∀ {run : List Char} {ways : Ways}, (∀ c ∈ run ++ text, p c) →
      ∀ c ∈ (runs run ways text).flatMap (fun r => writeRun r.1 r.2), p c := by
  induction text with
  | nil =>
      intro run ways h
      rw [List.append_nil] at h
      rw [runs, List.flatMap_singleton]
      exact forall_writeRun hquotes h
  | cons d rest ih =>
      intro run ways h
      unfold runs
      simp only
      split
      · rw [List.flatMap_cons]
        intro c hc
        rcases List.mem_append.1 hc with hc | hc
        · exact forall_writeRun hquotes (fun c hc => h c (List.mem_append_left _ hc)) c hc
        · exact ih (fun c hc => h c (List.mem_append_right _ hc)) c hc
      · rw [List.append_cons run d rest] at h
        exact ih h

/-- Writing a word adds quotes and backslashes to it, and nothing else. -/
theorem forall_quote (hquotes : p '\'' ∧ p '"' ∧ p '\\') {word : List Char}
    (h : ∀ c ∈ word, p c) : ∀ c ∈ quote word, p c := by
  cases word with
  | nil =>
      intro c hc
      simp only [quote, List.mem_cons, List.not_mem_nil, or_false, or_self] at hc
      exact hc ▸ hquotes.1
  | cons c rest => exact forall_runs hquotes h

end Characters

/-! ### Lines -/

/-- The written forms of some words with blanks between them. -/
def writtenLine (words : List (List Char)) : List Char :=
  [' '].intercalate (words.map quote)

theorem writtenLine_cons (first second : List Char) (rest : List (List Char)) :
    writtenLine (first :: second :: rest) = quote first ++ ' ' :: writtenLine (second :: rest) := by
  simp [writtenLine, List.intercalate]

theorem writtenLine_singleton (word : List Char) : writtenLine [word] = quote word := by
  simp [writtenLine, List.intercalate]

/-- **The words of a written line.** -/
theorem glyphsFrom_writtenLine : ∀ words : List (List Char),
    glyphsFrom .gap [] (writtenLine words) = some (words.map literally)
  | [] => rfl
  | [word] => by
      have hread := (reads_quote word).glyphsFrom [] []
      rw [List.append_nil] at hread
      rw [writtenLine_singleton, hread]
      rfl
  | first :: second :: rest => by
      have hlater := glyphsFrom_writtenLine (second :: rest)
      rw [writtenLine_cons, (reads_quote first).glyphsFrom, glyphsFrom_cons]
      exact congrArg (Option.map _) hlater

theorem uncommented_writtenLine : ∀ words : List (List Char),
    Uncommented .gap (writtenLine words)
  | [] => trivial
  | [word] => by
      have hend : Uncommented .bare [] := trivial
      have huncommented := (reads_quote word).uncommented hend
      rw [List.append_nil] at huncommented
      rw [writtenLine_singleton]
      exact huncommented
  | first :: second :: rest => by
      rw [writtenLine_cons]
      exact (reads_quote first).uncommented ⟨by decide, uncommented_writtenLine (second :: rest)⟩

theorem forall_writtenLine {p : Char → Prop} (hblank : p ' ') (hquotes : p '\'' ∧ p '"' ∧ p '\\') :
    ∀ {words : List (List Char)}, (∀ word ∈ words, ∀ c ∈ word, p c) → ∀ c ∈ writtenLine words, p c
  | [], _ => by
      intro c hc
      cases hc
  | [word], h => by
      rw [writtenLine_singleton]
      exact forall_quote hquotes (h word List.mem_cons_self)
  | first :: second :: rest, h => by
      rw [writtenLine_cons]
      intro c hc
      rcases List.mem_append.1 hc with hc | hc
      · exact forall_quote hquotes (h first List.mem_cons_self) c hc
      · rcases List.mem_cons.1 hc with rfl | hc
        · exact hblank
        · exact forall_writtenLine hblank hquotes
            (fun word hword => h word (List.mem_cons_of_mem first hword)) c hc

/-- Words without NUL characters are joined to their written line. -/
theorem join?_eq_writtenLine {words : List String} (hnul : ∀ word ∈ words, '\x00' ∉ word.toList) :
    ∃ line, join? words = some line ∧ line.toList = writtenLine (words.map String.toList) := by
  refine ⟨_, if_neg ?_, ?_⟩
  · simpa using hnul
  · have hquote : (String.toList ∘ fun word => String.ofList (quote word.toList)) =
        quote ∘ String.toList := funext fun word => String.toList_ofList
    rw [String.toList_intercalate, writtenLine, List.map_map, List.map_map, hquote]
    rfl

end CheckMatrix.Words
