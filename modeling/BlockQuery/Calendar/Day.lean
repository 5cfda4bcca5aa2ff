/-!
# Calendar days

Days of the proleptic Gregorian calendar, from the first day of year -262143 to the last day of year
262142. `Day.previous?` and `Day.next?` step through them; only the first day has no predecessor and
only the last one no successor.

A day is written year first, `2024-03-21`. Years from 0 to 9999 have four digits; all others have a
sign and at least four.
-/

namespace BlockQuery

namespace Calendar

/-- The first year. -/
def firstYear : Int :=
  -262143

/-- The last year. -/
def lastYear : Int :=
  262142

/-- Whether a year has a leap day. -/
def isLeap (year : Int) : Bool :=
  year % 4 = 0 && (year % 100 ≠ 0 || year % 400 = 0)

/-- The number of days of a month. -/
def monthLength (year : Int) (month : Nat) : Nat :=
  if month = 2 then (if isLeap year then 29 else 28)
  else if month = 4 ∨ month = 6 ∨ month = 9 ∨ month = 11 then 30
  else 31

/-- Whether there is such a day. -/
def IsDay (year : Int) (month day : Nat) : Prop :=
  firstYear ≤ year ∧ year ≤ lastYear ∧ 1 ≤ month ∧ month ≤ 12 ∧
    1 ≤ day ∧ day ≤ monthLength year month

instance (year : Int) (month day : Nat) : Decidable (IsDay year month day) := by
  unfold IsDay
  infer_instance

end Calendar

open Calendar

/-- A day of the calendar. -/
structure Day where
  year : Int
  month : Nat
  day : Nat
  isDay : IsDay year month day
  deriving DecidableEq, Repr

namespace Day

/-- The day with a given year, month and day of the month, if there is one. -/
def of? (year : Int) (month day : Nat) : Option Day :=
  if h : IsDay year month day then some ⟨year, month, day, h⟩ else none

/-- The day before. -/
def previous? (d : Day) : Option Day :=
  if 1 < d.day then of? d.year d.month (d.day - 1)
  else if 1 < d.month then of? d.year (d.month - 1) (monthLength d.year (d.month - 1))
  else of? (d.year - 1) 12 31

/-- The day after. -/
def next? (d : Day) : Option Day :=
  if d.day < monthLength d.year d.month then of? d.year d.month (d.day + 1)
  else if d.month < 12 then of? d.year (d.month + 1) 1
  else of? (d.year + 1) 1 1

/-! ### Text -/

/-- The digits of a number with zeros in front to fill a width. -/
def padded (width n : Nat) : List Char :=
  let digits := Nat.toDigits 10 n
  List.replicate (width - digits.length) '0' ++ digits

/-- The characters of a year. -/
def yearChars (year : Int) : List Char :=
  if year < 0 then '-' :: padded 4 year.natAbs
  else if 9999 < year then '+' :: padded 4 year.natAbs
  else padded 4 year.natAbs

/-- The day as text. -/
def text (d : Day) : String :=
  String.ofList (yearChars d.year ++ '-' :: (padded 2 d.month ++ '-' :: padded 2 d.day))

end Day

end BlockQuery
