/-!
# The calendar

Days are counted from 1 January 1970 in the Gregorian calendar, extended over all years. `dayNumber`
and `civil` go from a date to its number and back; `weekdayOf`, `ordinalOf` and `isoWeekOf` give the
day of the week, of the year, and the week by ISO 8601. Dates outside the years −262143 to 262142
are not used.
-/

namespace Slumber.Time

/-- A date of the Gregorian calendar. -/
structure Date where
  year : Int
  month : Nat
  day : Nat
deriving DecidableEq, Repr

/-- Whether a year has a 29 February. -/
def isLeapYear (y : Int) : Bool :=
  y % 4 == 0 && (y % 100 != 0 || y % 400 == 0)

/-- The number of days of a month. -/
def daysInMonth (y : Int) (m : Nat) : Nat :=
  if m = 2 then if isLeapYear y then 29 else 28
  else if m = 4 ∨ m = 6 ∨ m = 9 ∨ m = 11 then 30
  else 31

/-- Whether the parts of a date are in their ranges, the year included. -/
def Date.isValid (d : Date) : Bool :=
  -262143 ≤ d.year && d.year ≤ 262142 && 1 ≤ d.month && d.month ≤ 12
    && 1 ≤ d.day && d.day ≤ daysInMonth d.year d.month

/-- The days before 1 January of year `y`, counted from 1 January of year 1. -/
def daysBeforeYear (y : Int) : Int :=
  let p := y - 1
  p * 365 + p / 4 - p / 100 + p / 400

/-- The days of a year before the first of a month. -/
def daysBeforeMonth (y : Int) (m : Nat) : Nat :=
  (List.range (m - 1)).foldl (fun days i => days + daysInMonth y (i + 1)) 0

/-- The number of a date: 1 January 1970 is 0. -/
def dayNumber (d : Date) : Int :=
  daysBeforeYear d.year + daysBeforeMonth d.year d.month + d.day - 1 - 719162

/-- The year that holds the day `n`. -/
def yearOf (n : Int) : Int :=
  let z := n + 719162
  let cycles := z / 146097
  let r := z % 146097
  let centuries := min (r / 36524) 3
  let r := r - centuries * 36524
  let quads := r / 1461
  let r := r - quads * 1461
  let years := min (r / 365) 3
  cycles * 400 + centuries * 100 + quads * 4 + years + 1

/-- The day of the year, from 1, of the day `n`. -/
def ordinalOf (n : Int) : Nat :=
  (n - dayNumber ⟨yearOf n, 1, 1⟩).toNat + 1

/-- The month and day of the `k`th day of a year, counted from 0, starting at month `m`. -/
def monthAndDay (y : Int) : Nat → Nat → Nat → Nat × Nat
  | 0, m, k => (m, k + 1)
  | fuel + 1, m, k =>
    if k < daysInMonth y m then (m, k + 1) else monthAndDay y fuel (m + 1) (k - daysInMonth y m)

/-- The date of the day `n`. -/
def civil (n : Int) : Date :=
  let y := yearOf n
  let (m, d) := monthAndDay y 11 1 (ordinalOf n - 1)
  ⟨y, m, d⟩

/-- The day of the week of the day `n`, where Sunday is 0. -/
def weekdayOf (n : Int) : Nat :=
  ((n + 4) % 7).toNat

/-- The Monday that starts the first week of a year by ISO 8601: the week of 4 January. -/
def isoYearStart (y : Int) : Int :=
  let n := dayNumber ⟨y, 1, 4⟩
  n - (n + 3) % 7

/-- The year and week of the day `n` by ISO 8601. -/
def isoWeekOf (n : Int) : Int × Nat :=
  let y := yearOf n
  let y := if n < isoYearStart y then y - 1 else if isoYearStart (y + 1) ≤ n then y + 1 else y
  (y, ((n - isoYearStart y) / 7).toNat + 1)

/-- The number of the week of the day `n`, when weeks start at the weekday `first` and the days
before the first such weekday of the year are in week 0. -/
def weekOfYear (first : Nat) (n : Int) : Nat :=
  (ordinalOf n + 6 - (weekdayOf n + 7 - first) % 7) / 7

/-- The first and the last day in use. -/
def firstDay : Int := dayNumber ⟨-262143, 1, 1⟩

/-- The last day in use. -/
def lastDay : Int := dayNumber ⟨262142, 12, 31⟩

/-- Whether a day is in use. -/
def isDay (n : Int) : Bool :=
  firstDay ≤ n && n ≤ lastDay

end Slumber.Time
