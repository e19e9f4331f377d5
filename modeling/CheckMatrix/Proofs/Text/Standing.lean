/-
Words that stand by themselves.

A word written without quotes, behind a blank and in front of one, is a word of its line: the words
of the line are those of the text in front of it, the word itself, and those of the text behind it
(`Alone.wordsFrom`).  What is in front may be quoted as it likes, as long as every quote is closed
and every comment has ended.

The marker may take the quoting of such a text otherwise.  But it never waits behind a blank for a
character to protect, and none of the characters of the word is one that it changes; so the word
stands by itself in the marked line as well (`Alone.marked`).
-/
import CheckMatrix.Proofs.Text.Seams

namespace CheckMatrix.Words

open Marks

/-! ### Splitting around a word -/

/-- The characters that quoting, comments and the marker leave alone. -/
def isOrdinary (c : Char) : Bool :=
  !(isBlank c || c = '"' || c = '\'' || c = '\\' || c = '#' || c = '$' || c = '~')

/-- A word stands by itself in a line: behind what is in front of it a word can begin, and a blank
or the end of the line is behind it. -/
structure Alone (line before word after : List Char) : Prop where
  written : line = before ++ (word ++ after)
  begins : Place.gap.behind before = .gap
  ends : ∀ c ∈ after.head?, isBlank c = true

instance (line before word after : List Char) : Decidable (Alone line before word after) :=
  decidable_of_iff (line = before ++ (word ++ after) ∧ Place.gap.behind before = .gap ∧
    after.head?.all isBlank = true) <| by
    rw [Option.all_eq_true]
    exact ⟨fun ⟨hwritten, hbegins, hends⟩ => ⟨hwritten, hbegins, hends⟩,
      fun ⟨hwritten, hbegins, hends⟩ => ⟨hwritten, hbegins, hends⟩⟩

/-- **A line can be cut where no word has begun.** -/
theorem wordsFrom_append {front rest : List Char} :
    ∀ {place : Place} {word : List Char}, (place.Outside → word = []) →
      place.behind front = .gap →
        wordsFrom place word (front ++ rest) = (wordsFrom place word front).bind fun words =>
          (wordsFrom .gap [] rest).map (words ++ ·) := by
  induction front with
  | nil =>
      intro place word hword hplace
      obtain rfl : place = .gap := hplace
      obtain rfl := hword (.inl rfl)
      exact Option.map_id'.symm
  | cons c front ih =>
      intro place word hword hplace
      rw [List.cons_append, wordsFrom_cons, wordsFrom_cons]
      have houtside := place.outside_of_next c
      have hinside := fun {text} (h : (place.next c).2 = .add text) => (Place.inside_of_add h).2
      change (place.next c).1.behind front = .gap at hplace
      generalize place.next c = reached at hplace houtside hinside ⊢
      obtain ⟨after, effect⟩ := reached
      cases effect with
      | skip =>
          refine ih (fun hafter => ?_) hplace
          obtain ⟨hstart, -⟩ | hfinish := houtside hafter
          · exact hword hstart
          · cases hfinish
      | add text => exact ih (fun hafter => absurd hafter (hinside rfl)) hplace
      | finish =>
          change (wordsFrom after [] (front ++ rest)).map (word :: ·) =
            ((wordsFrom after [] front).map (word :: ·)).bind _
          rw [ih (fun _ => rfl) hplace]
          cases wordsFrom after [] front with
          | none => rfl
          | some words =>
              rw [Option.bind_some, Option.map_map]
              rfl

/-- A text behind which a word can begin has words. -/
theorem exists_wordsFrom {front : List Char} (h : Place.gap.behind front = .gap) :
    ∃ words, wordsFrom .gap [] front = some words := by
  have hplace : (front.foldl pass (.gap, 0)).1 = .gap := by rw [foldl_pass_fst, h]
  have hlength := @length_wordsFrom front .gap [] 0
  generalize front.foldl pass (.gap, 0) = reached at hplace hlength
  obtain ⟨_, count⟩ := reached
  cases hplace
  obtain ⟨words, hwords, -⟩ := Option.map_eq_some_iff.1 hlength
  exact ⟨words, hwords⟩

theorem inWord_of_ordinary {c : Char} (hc : isOrdinary c = true) :
    Place.inWord c = (.bare, .add [c]) ∧ isBlank c = false ∧ c ≠ '#' := by
  simp only [isOrdinary, Bool.not_eq_true', Bool.or_eq_false_iff, decide_eq_false_iff_not] at hc
  obtain ⟨⟨⟨⟨⟨⟨hblank, hdouble⟩, hsingle⟩, hslash⟩, hhash⟩, -⟩, -⟩ := hc
  exact ⟨by simp [Place.inWord, hdouble, hsingle, hslash], hblank, hhash⟩

/-- Ordinary characters are added to the word at hand, -/
theorem wordsFrom_bare {text rest : List Char} (htext : ∀ c ∈ text, isOrdinary c = true) :
    ∀ word : List Char, wordsFrom .bare word (text ++ rest) = wordsFrom .bare (word ++ text) rest := by
  induction text with
  | nil => exact fun word => by rw [List.append_nil]; rfl
  | cons c text ih =>
      intro word
      obtain ⟨hc, hrest⟩ := List.forall_mem_cons.1 htext
      obtain ⟨hadd, hblank, -⟩ := inWord_of_ordinary hc
      have hnext : Place.bare.next c = (.bare, .add [c]) := by simp [Place.next, hblank, hadd]
      rw [List.cons_append, wordsFrom_cons, hnext]
      change wordsFrom .bare (word ++ [c]) (text ++ rest) = _
      rw [ih hrest, List.append_assoc, List.singleton_append]

/-- begin one where there is none, -/
theorem wordsFrom_gap {text rest : List Char} (htext : ∀ c ∈ text, isOrdinary c = true)
    (hsome : text ≠ []) : wordsFrom .gap [] (text ++ rest) = wordsFrom .bare text rest := by
  obtain ⟨c, text, rfl⟩ := List.exists_cons_of_ne_nil hsome
  obtain ⟨hc, hrest⟩ := List.forall_mem_cons.1 htext
  obtain ⟨hadd, hblank, hhash⟩ := inWord_of_ordinary hc
  have hnext : Place.gap.next c = (.bare, .add [c]) := by simp [Place.next, hblank, hhash, hadd]
  rw [List.cons_append, wordsFrom_cons, hnext]
  exact wordsFrom_bare hrest [c]

/-- and the word ends at a blank or at the end of the line. -/
theorem wordsFrom_ends {word rest : List Char} (hends : ∀ c ∈ rest.head?, isBlank c = true) :
    wordsFrom .bare word rest = (wordsFrom .gap [] rest).map (word :: ·) := by
  cases rest with
  | nil => rfl
  | cons c rest =>
      have hblank := hends c rfl
      have hhash : c ≠ '#' := by
        rintro rfl
        exact absurd hblank (by decide)
      have hbare : Place.bare.next c = (.gap, .finish) := by simp [Place.next, hblank]
      have hgap : Place.gap.next c = (.gap, .skip) := by simp [Place.next, hblank, hhash]
      rw [wordsFrom_cons, wordsFrom_cons, hbare, hgap]

/-- **A word that stands by itself is a word of its line.** -/
theorem Alone.wordsFrom {line before word after : List Char} (h : Alone line before word after)
    (hword : ∀ c ∈ word, isOrdinary c = true) (hsome : word ≠ []) :
    wordsFrom .gap [] line = (wordsFrom .gap [] before).bind fun front =>
      (wordsFrom .gap [] after).map fun back => front ++ word :: back := by
  rw [h.written, wordsFrom_append (fun _ => rfl) h.begins, wordsFrom_gap hword hsome,
    wordsFrom_ends h.ends]
  simp only [Option.map_map]
  rfl

/-! ### Marking around a word -/

/-- How the marker takes a character behind a text to be quoted. -/
def quotingBehind (quoting : Quoting) (text : List Char) : Quoting :=
  text.foldl (fun reached c => (reached.next c).1) quoting

theorem quoting_of_withheld {quoting : Quoting} (h : withheld quoting = []) :
    quoting = .bare ∨ quoting = .single ∨ quoting = .double := by
  cases quoting <;> simp_all [withheld]

/-- A text can be marked in two parts, unless the marker has a backslash to write in between. -/
theorem markFrom_append {front rest : List Char} :
    ∀ {quoting : Quoting}, withheld (quotingBehind quoting front) = [] →
      markFrom quoting (front ++ rest) =
        markFrom quoting front ++ markFrom (quotingBehind quoting front) rest := by
  induction front with
  | nil =>
      intro quoting h
      obtain rfl | rfl | rfl := quoting_of_withheld h <;> rfl
  | cons c front ih =>
      intro quoting h
      rw [List.cons_append, markFrom_cons, markFrom_cons, ih h, List.append_assoc]
      rfl

/-- The marker waits for the next character only behind a backslash. -/
theorem withheld_next {c : Char} (hslash : c ≠ '\\') (quoting : Quoting) :
    withheld (quoting.next c).1 = [] := by
  cases quoting <;> simp only [Quoting.next] <;> split_ifs <;> rfl

/-- A word can begin only behind a blank. -/
theorem Place.isBlank_of_next {place : Place} {c : Char} (h : (place.next c).1 = .gap) :
    isBlank c = true := by
  cases place <;> simp only [Place.next, Place.inWord] at h <;> repeat' split at h
  all_goals simp_all [isBlank]

/-- Where a word can begin the marker does not wait for a character. -/
theorem withheld_of_begins {before : List Char} (h : Place.gap.behind before = .gap) :
    withheld (quotingBehind .bare before) = [] := by
  obtain rfl | ⟨front, c, rfl⟩ := before.eq_nil_or_concat'
  · rfl
  · rw [Place.behind, List.foldl_append] at h
    have hslash : c ≠ '\\' := by
      rintro rfl
      exact absurd (Place.isBlank_of_next h) (by decide)
    rw [quotingBehind, List.foldl_append]
    exact withheld_next hslash _

/-- A character that neither quotes nor is a sign is written as it is. -/
theorem next_of_plain {quoting : Quoting} (hquoting : withheld quoting = []) {c : Char}
    (hc : c ≠ '\'' ∧ c ≠ '"' ∧ c ≠ '\\' ∧ c ≠ '$' ∧ c ≠ '~') : quoting.next c = (quoting, [c]) := by
  obtain ⟨hsingle, hdouble, hslash, hdollar, htilde⟩ := hc
  obtain rfl | rfl | rfl := quoting_of_withheld hquoting <;> simp [Quoting.next, *]

/-- Ordinary characters are written as they are. -/
theorem markFrom_ordinary {quoting : Quoting} (hquoting : withheld quoting = [])
    {text rest : List Char} (htext : ∀ c ∈ text, isOrdinary c = true) :
    markFrom quoting (text ++ rest) = text ++ markFrom quoting rest := by
  induction text with
  | nil => rfl
  | cons c text ih =>
      obtain ⟨hc, hrest⟩ := List.forall_mem_cons.1 htext
      have hplain : c ≠ '\'' ∧ c ≠ '"' ∧ c ≠ '\\' ∧ c ≠ '$' ∧ c ≠ '~' := by
        simp only [isOrdinary, Bool.not_eq_true', Bool.or_eq_false_iff,
          decide_eq_false_iff_not] at hc
        tauto
      rw [List.cons_append, markFrom_cons, next_of_plain hquoting hplain]
      exact congrArg (c :: ·) (ih hrest)

/-- What is behind a word still begins with a blank. -/
theorem head_markFrom {quoting : Quoting} (hquoting : withheld quoting = []) {after : List Char}
    (hends : ∀ c ∈ after.head?, isBlank c = true) :
    ∀ c ∈ (markFrom quoting after).head?, isBlank c = true := by
  cases after with
  | nil => obtain rfl | rfl | rfl := quoting_of_withheld hquoting <;> exact nofun
  | cons c rest =>
      have hblank := hends c rfl
      have hplain : c ≠ '\'' ∧ c ≠ '"' ∧ c ≠ '\\' ∧ c ≠ '$' ∧ c ≠ '~' := by
        refine ⟨?_, ?_, ?_, ?_, ?_⟩ <;> rintro rfl <;> exact absurd hblank (by decide)
      rw [markFrom_cons, next_of_plain hquoting hplain]
      exact hends

/-- **A word that stands by itself does so in the marked line.** -/
theorem Alone.marked {line before word after : List Char} (h : Alone line before word after)
    (hword : ∀ c ∈ word, isOrdinary c = true) :
    Alone (markFrom .bare line) (markFrom .bare before) word
      (markFrom (quotingBehind .bare before) after) := by
  have hquoting := withheld_of_begins h.begins
  refine ⟨?_, ?_, head_markFrom hquoting h.ends⟩
  · rw [h.written, markFrom_append hquoting, markFrom_ordinary hquoting hword]
  · rw [← foldl_pass_fst (.gap, 0), foldl_pass_markFrom, foldl_pass_fst]
    exact h.begins

/-- A word that stands by itself in a line is a word of the marked line, behind as many words as the
text in front of it has. -/
theorem Alone.mem_split_mark {line : String} {before word after : List Char}
    (h : Alone line.toList before word after) (hword : ∀ c ∈ word, isOrdinary c = true)
    (hsome : word ≠ []) {words : List String} (hwords : split (mark line) = some words) :
    ∃ front, split (String.ofList before) = some front ∧
      words[front.length]? = some (String.ofList word) := by
  obtain ⟨texts, htexts, rfl⟩ := Option.map_eq_some_iff.1 hwords
  rw [mark, String.toList_ofList, (h.marked hword).wordsFrom hword hsome,
    Option.bind_eq_some_iff] at htexts
  obtain ⟨marked, hmarked, htexts⟩ := htexts
  obtain ⟨back, -, rfl⟩ := Option.map_eq_some_iff.1 htexts
  obtain ⟨front, hfront⟩ := exists_wordsFrom h.begins
  have hsplit : split (String.ofList before) = some (front.map String.ofList) := by
    rw [split, String.toList_ofList, hfront]
    rfl
  have hcount : marked.length = front.length := by
    have hlength := length_split_mark (String.ofList before)
    rw [hsplit, split, mark, String.toList_ofList, String.toList_ofList, hmarked] at hlength
    simpa using hlength
  refine ⟨_, hsplit, ?_⟩
  rw [List.length_map, ← hcount]
  simp

end CheckMatrix.Words
