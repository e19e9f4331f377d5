/-
Styled text on a terminal.

A style is a list of codes that an escape sequence switches on in front of the text and another one
switches off behind it.  Where the text itself switches everything off, the style is switched on
again.
-/
namespace CheckMatrix

/-- How a piece of output is shown. -/
structure Style where
  codes : List Nat
  deriving DecidableEq, Repr

namespace Style

def bold : Style := ⟨[1]⟩
def dimmed : Style := ⟨[2]⟩
def red : Style := ⟨[31]⟩
def green : Style := ⟨[32]⟩
def yellow : Style := ⟨[33]⟩
def blue : Style := ⟨[34]⟩
def boldCyan : Style := ⟨[1, 36]⟩
def boldRed : Style := ⟨[1, 31]⟩
def boldYellow : Style := ⟨[1, 33]⟩

/-- The sequence that switches codes on. -/
def sequence (codes : List Nat) : List Char :=
  ['\x1b', '['] ++ (";".intercalate (codes.map toString)).toList ++ ['m']

/-- The sequence that switches everything off. -/
def off : List Char :=
  sequence [0]

/-- A text in which `on` follows every sequence that switches everything off; `skip` counts the
characters of such a sequence that are still to be copied. -/
def switchBackOn (on : List Char) : (skip : Nat) → List Char → List Char
  | _, [] => []
  | 0, c :: rest =>
    if off.isPrefixOf (c :: rest) then c :: switchBackOn on (off.length - 1) rest
    else c :: switchBackOn on 0 rest
  | 1, c :: rest => c :: (on ++ switchBackOn on 0 rest)
  | skip + 2, c :: rest => c :: switchBackOn on (skip + 1) rest

/-- The text in a style, or as it is when there are no colours. -/
def paint (s : Style) (colour : Bool) (text : String) : String :=
  if colour then
    let on := sequence s.codes
    String.ofList (on ++ switchBackOn on 0 text.toList ++ off)
  else text

end Style

end CheckMatrix
