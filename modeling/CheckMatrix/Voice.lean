/-
How messages are put: in which language, and with or without colours.
-/
import CheckMatrix.Style
import CheckMatrix.Wording

namespace CheckMatrix

/-- A language and whether colours are shown. -/
structure Voice where
  locale : Locale
  colour : Bool
  deriving DecidableEq, Repr

namespace Voice

/-- The messages of the voice. -/
def wording (v : Voice) : Wording :=
  v.locale.wording

/-- A text in a style. -/
def paint (v : Voice) (style : Style) (text : String) : String :=
  style.paint v.colour text

end Voice

end CheckMatrix
