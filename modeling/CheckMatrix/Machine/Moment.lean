/-
Moments as they are given to tools.

A moment is a date with hyphens between the year, the month and the day, or the seconds since the
beginning of time behind an at sign; the empty text is the current day.  A second notation has
digits only, two for each part.  Either way the date has to exist.
-/
import CheckMatrix.Text.Cut
import CheckMatrix.Text.Numeral

namespace CheckMatrix.Moment

/-! ### Dates that exist -/

/-- A year with one day more. -/
def isLeapYear (year : Nat) : Bool :=
  year % 4 = 0 && (year % 100 ≠ 0 || year % 400 = 0)

/-- The days of a month. -/
def monthDays (isLeap : Bool) (month : Nat) : Nat :=
  if month = 2 then if isLeap then 29 else 28
  else if [4, 6, 9, 11].contains month then 30
  else 31

/-- A day of a month that exists; the months are counted from one. -/
def isDay (isLeap : Bool) (month day : Nat) : Bool :=
  1 ≤ month && month ≤ 12 && 1 ≤ day && day ≤ monthDays isLeap month

/-! ### Moments in words -/

/-- A text is a number. -/
def isNumber (text : List Char) : Bool :=
  !text.isEmpty && text.all Char.isDigit

/-- A text is a date. -/
def isDate (text : List Char) : Bool :=
  match Text.cut (· = '-') text with
  | [year, month, day] =>
    year.length = 4 && [year, month, day].all isNumber &&
      isDay (isLeapYear (Text.valueOf 10 year)) (Text.valueOf 10 month) (Text.valueOf 10 day)
  | _ => false

/-- A text can be understood as a moment. -/
def isUnderstood (text : String) : Bool :=
  match text.toList with
  | [] => true
  | '@' :: seconds => isNumber seconds
  | date => isDate date

/-! ### Moments in digits -/

/-- Digits two by two. -/
def twoByTwo : List Char → List Nat
  | a :: b :: rest => Text.valueOf 10 [a, b] :: twoByTwo rest
  | _ => []

/-- The month, the day, the hour and the minute of a year exist, and the seconds behind them; one
second more than usual is admitted. -/
def isExact (isLeap : Bool) (second : Nat) : List Nat → Bool
  | [month, day, hour, minute] => isDay isLeap month day && hour < 24 && minute < 60 && second ≤ 60
  | _ => false

/-- A text of digits is a moment: the year with or without its century if it is told, month, day,
hour and minute, and the seconds behind a point if they are. -/
def isInDigits (text : String) : Bool :=
  let chars := text.toList
  let front := chars.takeWhile (· ≠ '.')
  let seconds := chars.drop (front.length + 1)
  let pairs := twoByTwo front
  let hasSeconds := front.length < chars.length
  (front ++ seconds).all Char.isDigit && front.length % 2 = 0 &&
    (!hasSeconds || seconds.length = 2) &&
    match pairs.reverse.drop 4 with
    | [] => isExact false (Text.valueOf 10 seconds) pairs
    | [year] => isExact (isLeapYear year) (Text.valueOf 10 seconds) (pairs.drop 1)
    | [year, century] =>
      isExact (isLeapYear (century * 100 + year)) (Text.valueOf 10 seconds) (pairs.drop 2)
    | _ => false

end CheckMatrix.Moment
