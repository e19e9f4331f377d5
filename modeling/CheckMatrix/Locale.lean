/-
Languages of the messages.

There are messages in two languages.  `matching` chooses one for a language tag that a person or
the system asks for, by the whole tag or by its language part; `speaking` tells which messages are
shown under a tag that was set as it is, where only whole tags count and the subtags at the end are
given up one by one.
-/
import CheckMatrix.Environment
import CheckMatrix.Text.Cut

namespace CheckMatrix

/-- A language that has messages. -/
inductive Locale
  | english
  | chinese
  deriving DecidableEq, Repr

namespace Locale

/-- The tag of a language. -/
def tag : Locale → String
  | english => "en"
  | chinese => "zh-CN"

/-- The language part of its tag. -/
def language : Locale → String
  | english => "en"
  | chinese => "zh"

/-- The languages, with the one that everything falls back to first. -/
def all : List Locale := [english, chinese]

/-- The language with exactly this tag. -/
def ofTag? (tag : String) : Option Locale :=
  all.find? (·.tag = tag)

/-- The part of a tag in front of the first hyphen or underscore. -/
def languagePart (tag : String) : String :=
  String.ofList (tag.toList.takeWhile fun c => c ≠ '-' ∧ c ≠ '_')

/-- The language that suits a tag best. -/
def matching (tag : String) : Locale :=
  match ofTag? tag with
  | some locale => locale
  | none => (all.find? (·.language = languagePart tag)).getD english

/-! ### Tags set as they are -/

/-- The language whose tag is the longest beginning of the given one, both cut into subtags; the
given ones come in reverse order. -/
def spokenBy? : List (List Char) → Option Locale
  | [] => none
  | subtag :: rest =>
    let whole := String.ofList (List.intercalate ['-'] (subtag :: rest).reverse)
    (ofTag? whole).or (spokenBy? rest)

/-- The language of the messages under a tag. -/
def speaking (tag : String) : Locale :=
  (spokenBy? (Text.cut (· = '-') tag.toList).reverse).getD english

/-! ### The language of the system -/

/-- The variable that lists languages, the one wanted most in front. -/
def languageList : String := "LANGUAGE"

/-- The variables that name one language, the first one that is not empty counting. -/
def languageVariables : List String := ["LC_ALL", "LC_MESSAGES", "LANG"]

/-- The value of a variable that is not empty. -/
def setting? (process : ProcessEnv) (name : String) : Option String :=
  (process.get? name).filter fun value => !value.isEmpty

/-- The language that the system is set to: the first of the list, or else the one named. -/
def systemSetting? (process : ProcessEnv) : Option String :=
  ((setting? process languageList).map fun list =>
      String.ofList (list.toList.takeWhile (· ≠ ':'))).or
    (languageVariables.findSome? (setting? process))

/-- The tag that a setting of the system stands for: without its character encoding and its
modifier, with hyphens for underscores. -/
def tagOfSetting (setting : String) : String :=
  String.ofList ((setting.toList.takeWhile fun c => c ≠ '.' ∧ c ≠ '@').map fun c =>
    if c = '_' then '-' else c)

/-- The tag of the system's language, if it has one. -/
def systemTag? (process : ProcessEnv) : Option String :=
  (systemSetting? process).map tagOfSetting

/-- The language to start with: the one asked for, else the system's. -/
def initial (requested : Option String) (process : ProcessEnv) : Locale :=
  matching ((requested.or (systemTag? process)).getD english.tag)

end Locale

end CheckMatrix
