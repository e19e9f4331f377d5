/-
What quoting makes of a command line.

The rule is stated of tagged characters: the splitter reads a line, and every character that it adds
to a word keeps whether quotes or a backslash made it literal (`glyphsFrom`).  Forgetting the tags
gives the words of the line back (`glyphsFrom_chars`).

Planning has no tags.  It marks the line first and splits what it has written, so the marker has to
know at every character where the splitter will stand.  It lags behind by one backslash: it writes
nothing until it has seen what the backslash protects (`Trails`).  The marker does not know comments
and takes a quote in one for a quote.  That does no harm to a comment, but what comes behind it is
read in the wrong quoting unless the marker has closed what it opened (`Settled`).  The words of the
marked line then spell the tagged words of the line itself, each stand-in taking the place of a
literal character (`wordsFrom_markFrom`).

There is one exception.  Behind a backslash that double quotes keep, a tilde is written as it is.
A word never begins with such a tilde, since the backslash stands in front of it, and `Spells` says
so of every place in a word.
-/
import CheckMatrix.Proofs.Fallible
import CheckMatrix.Text.Marks
import CheckMatrix.Text.Words

namespace CheckMatrix

/-- A character of a command word, and whether it was kept literal. -/
structure Glyph where
  char : Char
  literal : Bool
  deriving DecidableEq, Repr

/-- A character that nothing keeps literal. -/
def Glyph.active (c : Char) : Glyph :=
  ⟨c, false⟩

/-! ### Splitting into tagged words -/

namespace Words

/-- The dollar signs and tildes that are kept literal by where they are read: both by single quotes
and behind a backslash, tildes by double quotes. -/
def Place.keeps : Place → Char → Bool
  | .single, c => c = '$' || c = '~'
  | .bareEscape, c => c = '$' || c = '~'
  | .double, c => c = '~'
  | .doubleEscape, c => c = '$' || c = '~'
  | _, _ => false

/-- Characters with the tags that they get at a place. -/
def Place.tag (place : Place) (text : List Char) : List Glyph :=
  text.map fun c => ⟨c, place.keeps c⟩

/-- Reads the tagged words of a text from a place, with the part of the current word read so far. -/
def glyphsFrom : Place → List Glyph → List Char → Option (List (List Glyph))
  | .gap, _, [] => some []
  | .comment, _, [] => some []
  | .bare, word, [] => some [word]
  | _, _, [] => none
  | place, word, c :: rest =>
    match place.next c with
    | (after, .skip) => glyphsFrom after word rest
    | (after, .add text) => glyphsFrom after (word ++ place.tag text) rest
    | (after, .finish) => (glyphsFrom after [] rest).map (word :: ·)

/-- The tagged words of a command line, if its quotes are closed. -/
def splitGlyphs (line : String) : Option (List (List Glyph)) :=
  glyphsFrom .gap [] line.toList

theorem glyphsFrom_cons (place : Place) (word : List Glyph) (c : Char) (rest : List Char) :
    glyphsFrom place word (c :: rest) =
      match place.next c with
      | (after, .skip) => glyphsFrom after word rest
      | (after, .add text) => glyphsFrom after (word ++ place.tag text) rest
      | (after, .finish) => (glyphsFrom after [] rest).map (word :: ·) := by
  cases place <;> rfl

theorem wordsFrom_cons (place : Place) (word : List Char) (c : Char) (rest : List Char) :
    wordsFrom place word (c :: rest) =
      match place.next c with
      | (after, .skip) => wordsFrom after word rest
      | (after, .add text) => wordsFrom after (word ++ text) rest
      | (after, .finish) => (wordsFrom after [] rest).map (word :: ·) := by
  cases place <;> rfl

theorem Place.tag_chars (place : Place) (text : List Char) :
    (place.tag text).map Glyph.char = text := by
  rw [Place.tag, List.map_map]
  exact List.map_id _

/-- **The tags make no difference to the words.** -/
theorem glyphsFrom_chars {text : List Char} :
    ∀ (place : Place) (word : List Glyph),
      (glyphsFrom place word text).map (·.map (·.map Glyph.char)) =
        wordsFrom place (word.map Glyph.char) text := by
  induction text with
  | nil =>
      intro place word
      cases place <;> rfl
  | cons c rest ih =>
      intro place word
      rw [glyphsFrom_cons, wordsFrom_cons]
      obtain ⟨after, effect⟩ := place.next c
      cases effect with
      | skip => exact ih after word
      | add text =>
          rw [ih after, List.map_append, Place.tag_chars]
      | finish =>
          have hrest := ih after []
          rw [List.map_nil] at hrest
          simp only [Option.map_map, ← hrest]
          rfl

/-! ### Lines without comments -/

/-- No comment is opened in a text that is read from a place. -/
def Uncommented : Place → List Char → Prop
  | _, [] => True
  | place, c :: rest => (place.next c).1 ≠ .comment ∧ Uncommented (place.next c).1 rest

/-- Only a hash sign opens a comment. -/
theorem Place.next_ne_comment {place : Place} (hplace : place ≠ .comment) {c : Char}
    (hc : c ≠ '#') : (place.next c).1 ≠ .comment := by
  cases place <;> simp only [Place.next, Place.inWord] <;> grind

theorem uncommented_of_notMem {text : List Char} (hhash : '#' ∉ text) :
    ∀ {place : Place}, place ≠ .comment → Uncommented place text := by
  induction text with
  | nil => exact fun _ => trivial
  | cons c rest ih =>
      intro place hplace
      have hnext := Place.next_ne_comment hplace fun hc : c = '#' => hhash (hc ▸ List.mem_cons_self)
      exact ⟨hnext, ih (fun hmem => hhash (List.mem_cons_of_mem c hmem)) hnext⟩

end Words

/-! ### What stands for a glyph -/

/-- The characters that a marked line has in place of literal ones. -/
def Marks.IsStandIn (c : Char) : Prop :=
  c = Marks.literalDollar ∨ c = Marks.literalTilde

instance (c : Char) : Decidable (Marks.IsStandIn c) :=
  inferInstanceAs (Decidable (_ ∨ _))

/-- A text in which no character could be taken for a literal one. -/
def Marks.Unmarked (text : List Char) : Prop :=
  ∀ c ∈ text, ¬ Marks.IsStandIn c

instance (text : List Char) : Decidable (Marks.Unmarked text) :=
  List.decidableBAll (fun c => ¬ Marks.IsStandIn c) text

/-- The character that is written for a glyph.  A literal tilde may be written as it is `behind` a
backslash. -/
inductive Writes : (behind : Bool) → Glyph → Char → Prop
  | active {behind : Bool} {c : Char} (h : ¬ Marks.IsStandIn c) : Writes behind ⟨c, false⟩ c
  | dollar {behind : Bool} : Writes behind ⟨'$', true⟩ Marks.literalDollar
  | tilde {behind : Bool} : Writes behind ⟨'~', true⟩ Marks.literalTilde
  | kept : Writes true ⟨'~', true⟩ '~'

/-- A text that is written for a word, the first character perhaps `behind` a backslash. -/
inductive Spells : (behind : Bool) → List Glyph → List Char → Prop
  | nil {behind : Bool} : Spells behind [] []
  | cons {behind : Bool} {g : Glyph} {c : Char} {gs : List Glyph} {cs : List Char}
      (h : Writes behind g c) (hrest : Spells (g.char = '\\') gs cs) :
      Spells behind (g :: gs) (c :: cs)

theorem Writes.mono {behind : Bool} {g : Glyph} {c : Char} (h : Writes false g c) :
    Writes behind g c := by
  cases h with
  | active h => exact .active h
  | dollar => exact .dollar
  | tilde => exact .tilde

theorem Spells.mono {behind : Bool} {gs : List Glyph} {cs : List Char} (h : Spells false gs cs) :
    Spells behind gs cs := by
  cases h with
  | nil => exact .nil
  | cons h hrest => exact .cons h.mono hrest

theorem Spells.append {behind : Bool} {gs gs' : List Glyph} {cs cs' : List Char}
    (h : Spells behind gs cs) (h' : ∀ behind, Spells behind gs' cs') :
    Spells behind (gs ++ gs') (cs ++ cs') := by
  induction h with
  | nil => exact h' _
  | cons hhead _ ih => exact .cons hhead ih

/-- Characters that nothing keeps literal are written as they are. -/
theorem Spells.of_active {behind : Bool} {cs : List Char} (h : Marks.Unmarked cs) :
    Spells behind (cs.map Glyph.active) cs := by
  induction cs generalizing behind with
  | nil => exact .nil
  | cons c rest ih =>
      refine .cons (.active (h c List.mem_cons_self)) (ih fun d hd => ?_)
      exact h d (List.mem_cons_of_mem c hd)

/-! ### Marking and splitting -/

namespace Words

open Marks

/-- How the marker takes the characters that are read at a place. -/
def Place.quoting : Place → Quoting
  | .gap => .bare
  | .comment => .bare
  | .bare => .bare
  | .bareEscape => .bareEscape
  | .single => .single
  | .double => .double
  | .doubleEscape => .doubleEscape

/-- Where the splitter of the marked line stands when that of the line itself stands at a place: at
the same, but in front of a backslash that has not been written yet. -/
inductive Trails : Place → Place → Prop
  | gap : Trails .gap .gap
  | bare : Trails .bare .bare
  | single : Trails .single .single
  | double : Trails .double .double
  | gapEscape : Trails .bareEscape .gap
  | bareEscape : Trails .bareEscape .bare
  | doubleEscape : Trails .doubleEscape .double

/-- Reading `written` takes the splitter from `start` to `after` and has an effect there, text being
added in what spells it with the tags of `place`. -/
inductive Does (place start : Place) (written : List Char) (after : Place) : Effect → Prop
  | skip (h : ∀ word tail, wordsFrom start word (written ++ tail) = wordsFrom after word tail) :
      Does place start written after .skip
  | add {text spelled : List Char} (hspells : ∀ behind, Spells behind (place.tag text) spelled)
      (h : ∀ word tail, wordsFrom start word (written ++ tail) =
        wordsFrom after (word ++ spelled) tail) : Does place start written after (.add text)
  | finish (h : ∀ word tail, wordsFrom start word (written ++ tail) =
        (wordsFrom after [] tail).map (word :: ·)) : Does place start written after .finish

/-- A character that is written as it is and taken by the splitter alone. -/
theorem Does.of_next {place : Place} {c : Char}
    (hspells : ∀ text, (place.next c).2 = .add text →
      ∀ behind, Spells behind (place.tag text) text) :
    Does place place [c] (place.next c).1 (place.next c).2 := by
  have hread := fun word tail => wordsFrom_cons place word c tail
  cases hnext : place.next c with
  | mk after effect =>
      simp only [hnext] at hread hspells ⊢
      cases effect with
      | skip => exact .skip hread
      | add text => exact .add (hspells text rfl) hread
      | finish => exact .finish hread

/-- A character behind a backslash does the same where the backslash is still to be read. -/
theorem Does.behind {place start after : Place} {c : Char} {effect : Effect}
    (hstart : start.next '\\' = (place, .skip)) (h : Does place place [c] after effect) :
    Does place start ['\\', c] after effect := by
  have hread : ∀ word tail, wordsFrom start word (['\\', c] ++ tail) =
      wordsFrom place word ([c] ++ tail) := by
    intro word tail
    rw [List.cons_append, wordsFrom_cons, hstart]
  cases h with
  | skip h => exact .skip fun word tail => (hread word tail).trans (h word tail)
  | add hspells h => exact .add hspells fun word tail => (hread word tail).trans (h word tail)
  | finish h => exact .finish fun word tail => (hread word tail).trans (h word tail)

/-- A stand-in is an ordinary character to the splitter. -/
theorem Does.standIn {place start after : Place} {c d : Char}
    (hstart : start.next d = (after, .add [d]))
    (hwrites : ∀ behind, Writes behind ⟨c, place.keeps c⟩ d) :
    Does place start [d] after (.add [c]) := by
  refine .add (fun behind => .cons (hwrites behind) .nil) fun word tail => ?_
  rw [List.cons_append, wordsFrom_cons, hstart]
  rfl

/-- What is read at a place that does not keep it is written as it is. -/
theorem spells_tag {place : Place} {text : List Char} (hkeeps : ∀ c ∈ text, place.keeps c = false)
    (htext : Unmarked text) (behind : Bool) : Spells behind (place.tag text) text := by
  have htag : place.tag text = text.map Glyph.active :=
    List.map_congr_left fun c hc => congrArg (Glyph.mk c) (hkeeps c hc)
  rw [htag]
  exact .of_active htext

/-- A character that adds nothing but itself and is not kept. -/
theorem Does.plain {place : Place} {c : Char}
    (hadds : ∀ text, (place.next c).2 = .add text → text = [c]) (hkeeps : place.keeps c = false)
    (hc : ¬ IsStandIn c) : Does place place [c] (place.next c).1 (place.next c).2 := by
  refine Does.of_next fun text htext => ?_
  rw [hadds text htext]
  refine spells_tag (fun d hd => ?_) fun d hd => ?_
  · exact List.mem_singleton.1 hd ▸ hkeeps
  · exact List.mem_singleton.1 hd ▸ hc

/-- Outside of quotes everything but a backslash is written as it is. -/
theorem mark_bare {place : Place} (hplace : place = .gap ∨ place = .bare) {c : Char}
    (hc : ¬ IsStandIn c) (hslash : c ≠ '\\') (hnext : (place.next c).1 ≠ .comment) :
    (Quoting.bare.next c).1 = (place.next c).1.quoting ∧
      Trails (place.next c).1 (place.next c).1 ∧
      Does place place (Quoting.bare.next c).2 (place.next c).1 (place.next c).2 := by
  have hmark : Quoting.bare.next c = ((place.next c).1.quoting, [c]) := by
    rcases hplace with rfl | rfl <;>
      simp only [Quoting.next, Place.next, Place.inWord, isBlank] <;> grind [Place.quoting]
  rw [hmark]
  refine ⟨rfl, ?_, Does.plain (fun text htext => ?_) ?_ hc⟩
  · rcases hplace with rfl | rfl <;>
      simp only [Place.next, Place.inWord] at hnext ⊢ <;> grind [Trails]
  · rcases hplace with rfl | rfl <;> simp only [Place.next, Place.inWord] at htext <;> grind
  · rcases hplace with rfl | rfl <;> rfl

/-- Behind a backslash outside of quotes. -/
theorem mark_bareEscape {start : Place} (hstart : start.next '\\' = (.bareEscape, .skip))
    (hplain : ∀ d, IsStandIn d → start.next d = (.bare, .add [d])) {c : Char}
    (hc : ¬ IsStandIn c) :
    (Quoting.bareEscape.next c).1 = .bare ∧
      Does .bareEscape start (Quoting.bareEscape.next c).2 .bare (Place.bareEscape.next c).2 := by
  by_cases hdollar : c = '$'
  · subst hdollar
    exact ⟨rfl, .standIn (hplain _ (.inl rfl)) fun _ => .dollar⟩
  by_cases htilde : c = '~'
  · subst htilde
    exact ⟨rfl, .standIn (hplain _ (.inr rfl)) fun _ => .tilde⟩
  have hmark : Quoting.bareEscape.next c = (.bare, ['\\', c]) := by
    simp [Quoting.next, hdollar, htilde]
  rw [hmark]
  refine ⟨rfl, Does.behind hstart (Does.plain (fun text htext => ?_) ?_ hc)⟩
  · simp only [Place.next] at htext
    grind
  · simp [Place.keeps, hdollar, htilde]

/-- Behind a backslash in double quotes. -/
theorem mark_doubleEscape {c : Char} (hc : ¬ IsStandIn c) :
    (Quoting.doubleEscape.next c).1 = .double ∧
      Does .doubleEscape .double (Quoting.doubleEscape.next c).2 .double
        (Place.doubleEscape.next c).2 := by
  by_cases hdollar : c = '$'
  · subst hdollar
    exact ⟨rfl, .standIn rfl fun _ => .dollar⟩
  have hmark : Quoting.doubleEscape.next c = (.double, ['\\', c]) := by
    simp [Quoting.next, hdollar]
  rw [hmark]
  refine ⟨rfl, Does.behind rfl (Does.of_next fun text htext => ?_)⟩
  by_cases htilde : c = '~'
  · -- the one literal character that is written as it is
    subst htilde
    have hboth : text = ['\\', '~'] := (Effect.add.inj htext).symm
    subst hboth
    exact fun behind => .cons (.active (by decide)) (.cons .kept .nil)
  · have hparts : ∀ d ∈ text, d = c ∨ d = '\\' := by
      simp only [Place.next] at htext
      grind
    refine spells_tag (fun d hd => ?_) fun d hd => ?_
    · rcases hparts d hd with rfl | rfl
      · simp [Place.keeps, hdollar, htilde]
      · rfl
    · rcases hparts d hd with rfl | rfl
      · exact hc
      · decide

/-- Within single quotes. -/
theorem mark_single {c : Char} (hc : ¬ IsStandIn c) :
    (Quoting.single.next c).1 = (Place.single.next c).1.quoting ∧
      Trails (Place.single.next c).1 (Place.single.next c).1 ∧
      Does .single .single (Quoting.single.next c).2 (Place.single.next c).1
        (Place.single.next c).2 := by
  by_cases hquote : c = '\''
  · subst hquote
    exact ⟨rfl, .bare, Does.of_next fun text htext => by cases htext⟩
  by_cases hdollar : c = '$'
  · subst hdollar
    exact ⟨rfl, .single, .standIn rfl fun _ => .dollar⟩
  by_cases htilde : c = '~'
  · subst htilde
    exact ⟨rfl, .single, .standIn rfl fun _ => .tilde⟩
  have hmark : Quoting.single.next c = (.single, [c]) := by
    simp [Quoting.next, hquote, hdollar, htilde]
  have hread : Place.single.next c = (.single, .add [c]) := by
    simp [Place.next, hquote]
  have hdoes : Does .single .single [c] (Place.single.next c).1 (Place.single.next c).2 := by
    refine Does.plain (fun text htext => ?_) ?_ hc
    · rw [hread] at htext
      exact (Effect.add.inj htext).symm
    · simp [Place.keeps, hdollar, htilde]
  rw [hmark]
  rw [hread] at hdoes ⊢
  exact ⟨rfl, .single, hdoes⟩

/-- Within double quotes, in front of anything but a backslash. -/
theorem mark_double {c : Char} (hc : ¬ IsStandIn c) (hslash : c ≠ '\\') :
    (Quoting.double.next c).1 = (Place.double.next c).1.quoting ∧
      Trails (Place.double.next c).1 (Place.double.next c).1 ∧
      Does .double .double (Quoting.double.next c).2 (Place.double.next c).1
        (Place.double.next c).2 := by
  by_cases hquote : c = '"'
  · subst hquote
    exact ⟨rfl, .bare, Does.of_next fun text htext => by cases htext⟩
  by_cases htilde : c = '~'
  · subst htilde
    exact ⟨rfl, .double, .standIn rfl fun _ => .tilde⟩
  have hmark : Quoting.double.next c = (.double, [c]) := by
    simp [Quoting.next, hquote, htilde, hslash]
  have hread : Place.double.next c = (.double, .add [c]) := by
    simp [Place.next, hquote, hslash]
  have hdoes : Does .double .double [c] (Place.double.next c).1 (Place.double.next c).2 := by
    refine Does.plain (fun text htext => ?_) ?_ hc
    · rw [hread] at htext
      exact (Effect.add.inj htext).symm
    · simp [Place.keeps, htilde]
  rw [hmark]
  rw [hread] at hdoes ⊢
  exact ⟨rfl, .double, hdoes⟩

/-- **One character of the line and what the marker writes for it do the same.** -/
theorem mark_step {place start : Place} (htrails : Trails place start) {c : Char}
    (hc : ¬ IsStandIn c) (hnext : (place.next c).1 ≠ .comment) :
    (place.quoting.next c).1 = (place.next c).1.quoting ∧
      ∃ after, Trails (place.next c).1 after ∧
        Does place start (place.quoting.next c).2 after (place.next c).2 := by
  have hstay : ∀ start' : Place, Does place start' [] start' .skip :=
    fun _ => .skip fun _ _ => rfl
  cases htrails with
  | gap =>
      by_cases hslash : c = '\\'
      · subst hslash
        exact ⟨rfl, .gap, .gapEscape, hstay .gap⟩
      · obtain ⟨hmark, hsame, hdoes⟩ := mark_bare (.inl rfl) hc hslash hnext
        exact ⟨hmark, _, hsame, hdoes⟩
  | bare =>
      by_cases hslash : c = '\\'
      · subst hslash
        exact ⟨rfl, .bare, .bareEscape, hstay .bare⟩
      · obtain ⟨hmark, hsame, hdoes⟩ := mark_bare (.inr rfl) hc hslash hnext
        exact ⟨hmark, _, hsame, hdoes⟩
  | single =>
      obtain ⟨hmark, hsame, hdoes⟩ := mark_single hc
      exact ⟨hmark, _, hsame, hdoes⟩
  | double =>
      by_cases hslash : c = '\\'
      · subst hslash
        exact ⟨rfl, .double, .doubleEscape, hstay .double⟩
      · obtain ⟨hmark, hsame, hdoes⟩ := mark_double hc hslash
        exact ⟨hmark, _, hsame, hdoes⟩
  | gapEscape =>
      have hplain : ∀ d, IsStandIn d → Place.gap.next d = (.bare, .add [d]) := by
        rintro d (rfl | rfl) <;> rfl
      obtain ⟨hmark, hdoes⟩ := mark_bareEscape rfl hplain hc
      exact ⟨hmark, .bare, .bare, hdoes⟩
  | bareEscape =>
      have hplain : ∀ d, IsStandIn d → Place.bare.next d = (.bare, .add [d]) := by
        rintro d (rfl | rfl) <;> rfl
      obtain ⟨hmark, hdoes⟩ := mark_bareEscape rfl hplain hc
      exact ⟨hmark, .bare, .bare, hdoes⟩
  | doubleEscape =>
      obtain ⟨hmark, hdoes⟩ := mark_doubleEscape hc
      exact ⟨hmark, .double, .double, hdoes⟩

theorem markFrom_cons (quoting : Quoting) (c : Char) (rest : List Char) :
    markFrom quoting (c :: rest) = (quoting.next c).2 ++ markFrom (quoting.next c).1 rest := by
  cases quoting <;> rfl

/-! ### Comments -/

/-- Every comment that a line break ends leaves the marker outside of quotes. -/
def Settled : Place → Quoting → List Char → Prop
  | _, _, [] => True
  | place, quoting, c :: rest =>
    (place = .comment → c = '\n' → (quoting.next c).1 = .bare) ∧
      Settled (place.next c).1 (quoting.next c).1 rest

instance Settled.decidable : ∀ (place : Place) (quoting : Quoting) (text : List Char),
    Decidable (Settled place quoting text)
  | _, _, [] => .isTrue trivial
  | place, quoting, c :: rest =>
    have := Settled.decidable (place.next c).1 (quoting.next c).1 rest
    inferInstanceAs (Decidable ((place = .comment → c = '\n' → (quoting.next c).1 = .bare) ∧
      Settled (place.next c).1 (quoting.next c).1 rest))

/-- Without comments there is nothing to settle. -/
theorem Uncommented.settled {text : List Char} :
    ∀ {place : Place} {quoting : Quoting}, place ≠ .comment → Uncommented place text →
      Settled place quoting text := by
  induction text with
  | nil => exact fun _ _ => trivial
  | cons c rest ih =>
      intro place quoting hplace huncommented
      exact ⟨fun hcomment => absurd hcomment hplace, ih huncommented.1 huncommented.2⟩

/-- Where the marker stands, and the splitter of the marked line, when that of the line itself
stands at a place.  In a comment the marker may be anywhere. -/
inductive InStep : Place → Quoting → Place → Prop
  | read {place start : Place} (h : Trails place start) : InStep place place.quoting start
  | comment {quoting : Quoting} : InStep .comment quoting .comment

/-- What has no line break in it stays within a comment. -/
theorem wordsFrom_comment {word tail : List Char} {written : List Char}
    (hwritten : ∀ d ∈ written, d ≠ '\n') :
    wordsFrom .comment word (written ++ tail) = wordsFrom .comment word tail := by
  induction written with
  | nil => rfl
  | cons d rest ih =>
      have hnext : Place.comment.next d = (.comment, .skip) := by
        simp [Place.next, hwritten d List.mem_cons_self]
      rw [List.cons_append, wordsFrom_cons, hnext]
      exact ih fun e he => hwritten e (List.mem_cons_of_mem d he)

/-- The marker writes no line break for another character. -/
theorem ne_newline_of_written {quoting : Quoting} {c d : Char} (hc : c ≠ '\n')
    (hd : d ∈ (quoting.next c).2) : d ≠ '\n' := by
  rintro rfl
  cases quoting <;> simp only [Quoting.next] at hd <;> grind [literalDollar, literalTilde]

/-- Whatever the marker writes for a character of a comment, the splitter passes over it. -/
theorem mark_comment (quoting : Quoting) (c : Char) :
    Does .comment .comment (quoting.next c).2 (Place.comment.next c).1
      (Place.comment.next c).2 := by
  by_cases hc : c = '\n'
  · subst hc
    cases quoting <;> exact .skip fun word tail => rfl
  · have hnext : Place.comment.next c = (.comment, .skip) := by simp [Place.next, hc]
    rw [hnext]
    exact .skip fun word tail => wordsFrom_comment fun d => ne_newline_of_written hc

/-- A comment opens where a word could begin. -/
theorem Trails.opens_comment {place start : Place} (h : Trails place start) {c : Char}
    (hnext : (place.next c).1 = .comment) : place = .gap ∧ start = .gap ∧ c = '#' := by
  cases h <;> simp only [Place.next, Place.inWord] at hnext <;> grind

/-- One character keeps the marker and the splitters in step. -/
theorem InStep.next {place start : Place} {quoting : Quoting} (h : InStep place quoting start)
    {c : Char} (hc : ¬ IsStandIn c)
    (hsettled : place = .comment → c = '\n' → (quoting.next c).1 = .bare) :
    ∃ after, InStep (place.next c).1 (quoting.next c).1 after ∧
      Does place start (quoting.next c).2 after (place.next c).2 := by
  cases h with
  | read htrails =>
      by_cases hnext : (place.next c).1 = .comment
      · obtain ⟨rfl, rfl, rfl⟩ := htrails.opens_comment hnext
        exact ⟨.comment, .comment, .skip fun word tail => rfl⟩
      · obtain ⟨hquoting, after, hafter, hdoes⟩ := mark_step htrails hc hnext
        rw [hquoting]
        exact ⟨after, .read hafter, hdoes⟩
  | comment =>
      refine ⟨_, ?_, mark_comment quoting c⟩
      by_cases hend : c = '\n'
      · rw [hsettled rfl hend]
        subst hend
        exact .read .gap
      · have hnext : Place.comment.next c = (.comment, .skip) := by simp [Place.next, hend]
        rw [hnext]
        exact .comment

/-- **The words of a marked text spell its tagged words**, if its comments settle: whatever has been
read of the current word. -/
theorem wordsFrom_markFrom {text : List Char} :
    ∀ {place start : Place} {quoting : Quoting} {gs : List Glyph} {cs : List Char},
      InStep place quoting start → Unmarked text → Settled place quoting text →
        Spells false gs cs →
        Option.Rel (List.Forall₂ (Spells false)) (glyphsFrom place gs text)
          (wordsFrom start cs (markFrom quoting text)) := by
  induction text with
  | nil =>
      intro place start quoting gs cs hstep _ _ hword
      cases hstep with
      | read htrails =>
          cases htrails with
          | gap => exact .some .nil
          | bare => exact .some (.cons hword .nil)
          | single => exact .none
          | double => exact .none
          | gapEscape => exact .none
          | bareEscape => exact .none
          | doubleEscape => exact .none
      | comment => cases quoting <;> exact .some .nil
  | cons c rest ih =>
      intro place start quoting gs cs hstep hunmarked hsettled hword
      have hrest : Unmarked rest := fun d hd => hunmarked d (List.mem_cons_of_mem c hd)
      obtain ⟨hend, hlater⟩ := hsettled
      obtain ⟨after, hafter, hdoes⟩ := hstep.next (hunmarked c List.mem_cons_self) hend
      rw [glyphsFrom_cons, markFrom_cons]
      generalize place.next c = next at hlater hafter hdoes ⊢
      obtain ⟨next, effect⟩ := next
      cases hdoes with
      | skip h =>
          rw [h]
          exact ih hafter hrest hlater hword
      | add hspells h =>
          rw [h]
          exact ih hafter hrest hlater (hword.append hspells)
      | finish h =>
          rw [h]
          have hwords := ih hafter hrest hlater .nil
          exact optionRel_map (f := (gs :: ·)) (g := (cs :: ·)) (fun _ _ h => .cons hword h) hwords

/-- The words of a marked line spell its tagged words. -/
theorem split_mark {line : String} (hunmarked : Unmarked line.toList)
    (hsettled : Settled .gap .bare line.toList) :
    Option.Rel (List.Forall₂ fun gs word => Spells false gs word.toList) (splitGlyphs line)
      (split (mark line)) := by
  have hwords := wordsFrom_markFrom (.read .gap) hunmarked hsettled .nil
  have hsame : splitGlyphs line = (glyphsFrom .gap [] line.toList).map id :=
    (congrFun Option.map_id _).symm
  rw [hsame, split, mark, String.toList_ofList]
  refine optionRel_map (fun glyphs words hspells => ?_) hwords
  refine List.forall₂_map_right_iff.2 (hspells.imp fun gs cs h => ?_)
  rw [String.toList_ofList]
  exact h

end Words

end CheckMatrix
