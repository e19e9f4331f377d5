/-
Lengths of time in a short form.

A length of time is shown with two decimals in the largest of seconds, milliseconds, microseconds
and nanoseconds that it fills; what does not fit is rounded to the nearest, a half to the even
neighbour.
-/
namespace CheckMatrix

/-- A length of time in nanoseconds. -/
structure Duration where
  nanoseconds : Nat
  deriving DecidableEq, Repr

namespace Duration

/-- The units with their lengths in nanoseconds, the largest first. -/
def units : List (Nat × String) :=
  [(1000000000, "s"), (1000000, "ms"), (1000, "µs")]

/-- The nearest whole number to `n / d`, the even one of two. -/
def nearest (n d : Nat) : Nat :=
  let q := n / d
  let r := 2 * (n % d)
  if r < d then q else if d < r then q + 1 else q + q % 2

/-- A number of two digits. -/
def twoDigits (n : Nat) : String :=
  if n < 10 then "0" ++ toString n else toString n

/-- The short form of a length of time. -/
def brief (t : Duration) : String :=
  let (length, unit) := (units.find? fun u => u.1 ≤ t.nanoseconds).getD (1, "ns")
  let hundredths := nearest (t.nanoseconds * 100) length
  toString (hundredths / 100) ++ "." ++ twoDigits (hundredths % 100) ++ unit

end Duration

end CheckMatrix
