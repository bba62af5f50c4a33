import Slumber.Time.Instant

/-!
# Dates and times from their parts

A text that is read by a format fills in some of the parts of a date and time: a year, its last two
digits, a week, an hour of the half day, and so on. `Fields` holds the parts read so far. A part may
be read twice if both readings agree. `Fields.date`, `Fields.time` and `Fields.localTime` put the
parts together; parts beyond those that fix the result must agree with it. `Fields.instant?` also
needs to know the offset from Universal Time.
-/

namespace Slumber.Time

/-- A date and time of day in some place: the day, the second of the day, and the nanosecond, which
is a thousand million or more in a leap second. -/
structure LocalTime where
  day : Int
  second : Nat
  nanos : Nat
deriving DecidableEq, Repr

/-- The instant of a local time in a place `offset` seconds ahead of Universal Time. -/
def LocalTime.toInstant (t : LocalTime) (offset : Int) : Instant :=
  ⟨t.day * 86400 + t.second - offset, t.nanos⟩

/-- The parts of a date and time that have been read. -/
structure Fields where
  year : Option Int := none
  century : Option Int := none
  yearOfCentury : Option Int := none
  isoYear : Option Int := none
  isoCentury : Option Int := none
  isoYearOfCentury : Option Int := none
  quarter : Option Int := none
  month : Option Int := none
  weekFromSunday : Option Int := none
  weekFromMonday : Option Int := none
  isoWeek : Option Int := none
  weekday : Option Int := none
  ordinal : Option Int := none
  day : Option Int := none
  halfDay : Option Int := none
  hourOfHalf : Option Int := none
  minute : Option Int := none
  second : Option Int := none
  nanos : Option Int := none
  timestamp : Option Int := none
  offset : Option Int := none

/-- Why parts do not make a date or time: some are missing, or they contradict each other or their
ranges. -/
inductive FieldsFault where
  | incomplete
  | impossible
deriving DecidableEq, Repr

/-- A part that was read as `new`, given what is known of it. -/
def agree? (known : Option Int) (new : Int) : Option (Option Int) :=
  match known with
  | none => some (some new)
  | some old => if old = new then some (some new) else none

/-- Whether a part, if it was read, is `value`. -/
def fits (known : Option Int) (value : Int) : Bool :=
  match known with
  | none => true
  | some old => old == value

namespace Fields

/-- Enters the hour of the day as half of the day and hour of the half. -/
def setHour? (f : Fields) (h : Int) : Option Fields := do
  if h < 0 ∨ 23 < h then none
  let halfDay ← agree? f.halfDay (h / 12)
  let hourOfHalf ← agree? f.hourOfHalf (h % 12)
  return { f with halfDay, hourOfHalf }

/-- A year from what was read of it: the full year, its century and its last two digits. Two digits
alone are a year from 1970 to 2069. -/
def resolveYear : (full century inCentury : Option Int) → Except FieldsFault (Option Int)
  | y, none, none => .ok y
  | some y, q, r =>
    if y < 0 then .error .impossible
    else if fits q (y / 100) && fits r (y % 100) then .ok (some y)
    else .error .impossible
  | none, some q, some r => .ok (some (q * 100 + r))
  | none, none, some r => .ok (some (r + if r < 70 then 2000 else 1900))
  | none, some _, none => .error .incomplete

/-- Whether the parts of the calendar date agree with the day `n`. -/
def fitsDate (f : Fields) (n : Int) : Bool :=
  let d := civil n
  let fitsCentury (known : Option Int) (v : Int) : Bool :=
    if 0 ≤ d.year then fits known v else known.isNone
  fits f.year d.year && fitsCentury f.century (d.year / 100)
    && fitsCentury f.yearOfCentury (d.year % 100)
    && fits f.month d.month && fits f.day d.day

/-- Whether the parts of the date by ISO weeks agree with the day `n`. -/
def fitsIsoWeek (f : Fields) (n : Int) : Bool :=
  let (y, w) := isoWeekOf n
  let fitsCentury (known : Option Int) (v : Int) : Bool :=
    if 0 ≤ y then fits known v else known.isNone
  fits f.isoYear y && fitsCentury f.isoCentury (y / 100) && fitsCentury f.isoYearOfCentury (y % 100)
    && fits f.isoWeek w && fits f.weekday (weekdayOf n)

/-- Whether the day of the year and the numbered weeks agree with the day `n`. -/
def fitsOrdinal (f : Fields) (n : Int) : Bool :=
  fits f.ordinal (ordinalOf n) && fits f.weekFromSunday (weekOfYear 0 n)
    && fits f.weekFromMonday (weekOfYear 1 n)

/-- The first day of a year, if the year is in use. -/
def yearStart (y : Int) : Except FieldsFault Int :=
  if (⟨y, 1, 1⟩ : Date).isValid then .ok (dayNumber ⟨y, 1, 1⟩) else .error .impossible

/-- The day of a numbered week of a year, where weeks start at the weekday `first`. -/
def dayOfWeek (y week weekday : Int) (first : Nat) : Except FieldsFault Int := do
  let start ← yearStart y
  let firstWeek := 1 + ((first : Int) + 7 - weekdayOf start) % 7
  let ordinal := firstWeek + (week - 1) * 7 + (weekday + 7 - first) % 7
  if ordinal ≤ 0 then .error .impossible
  else if ordinal ≤ (if isLeapYear y then 366 else 365) then .ok (start + ordinal - 1)
  else .error .impossible

/-- The day that fixes the date, from the first of these that was read: month and day, day of the
year, week and weekday by either count, week and weekday by ISO 8601. -/
def fixedDay (f : Fields) (year isoYear : Option Int) : Except FieldsFault (Int × Bool) :=
  match year, f.month, f.day, f.ordinal, f.weekFromSunday, f.weekFromMonday, f.weekday with
  | some y, some m, some d, _, _, _, _ =>
    let date : Date := ⟨y, m.toNat, d.toNat⟩
    if date.isValid then
      let n := dayNumber date
      .ok (n, f.fitsIsoWeek n && f.fitsOrdinal n)
    else .error .impossible
  | some y, _, _, some o, _, _, _ => do
    let start ← yearStart y
    if 1 ≤ o ∧ o ≤ (if isLeapYear y then 366 else 365) then
      let n := start + o - 1
      return (n, f.fitsDate n && f.fitsIsoWeek n && f.fitsOrdinal n)
    else .error .impossible
  | some y, _, _, _, some w, _, some d => do
    let n ← dayOfWeek y w d 0
    return (n, f.fitsDate n && f.fitsIsoWeek n && f.fitsOrdinal n)
  | some y, _, _, _, _, some w, some d => do
    let n ← dayOfWeek y w d 1
    return (n, f.fitsDate n && f.fitsIsoWeek n && f.fitsOrdinal n)
  | _, _, _, _, _, _, weekday =>
    match isoYear, f.isoWeek, weekday with
    | some y, some w, some d =>
      let start := isoYearStart y
      let weeks := (isoYearStart (y + 1) - start) / 7
      let n := start + (w - 1) * 7 + (d + 6) % 7
      if 1 ≤ w ∧ w ≤ weeks ∧ isDay n then .ok (n, f.fitsDate n && f.fitsOrdinal n)
      else .error .impossible
    | _, _, _ => .error .incomplete

/-- The day that the parts of the date fix, if no part contradicts it. -/
def date (f : Fields) : Except FieldsFault Int := do
  let year ← resolveYear f.year f.century f.yearOfCentury
  let isoYear ← resolveYear f.isoYear f.isoCentury f.isoYearOfCentury
  let (n, agrees) ← f.fixedDay year isoYear
  if !agrees then .error .impossible
  else if fits f.quarter (((civil n).month + 2) / 3 : Nat) then .ok n
  else .error .impossible

/-- The second of the day and the nanosecond. Seconds may be left out, but not before a fraction;
the second 60 is a leap second. -/
def time (f : Fields) : Except FieldsFault (Nat × Nat) :=
  match f.halfDay, f.hourOfHalf, f.minute with
  | some half, some hour, some minute =>
    let (second, leap) : Int × Nat :=
      match f.second with
      | some 60 => (59, 1000000000)
      | some s => (s, 0)
      | none => (0, 0)
    match f.second, f.nanos with
    | none, some _ => .error .incomplete
    | _, nanos =>
      .ok ((((half * 12 + hour) * 60 + minute) * 60 + second).toNat,
        leap + (nanos.getD 0).toNat)
  | _, _, _ => .error .incomplete

/-- The local time that a count of seconds from 1970 gives, with the parts it leaves open taken from
the count and all others agreeing with it. -/
def localTimeOfTimestamp (f : Fields) (timestamp offset : Int) : Except FieldsFault LocalTime := do
  let n := timestamp + offset
  let fits := -0x8000000000000000 ≤ n ∧ n < 0x8000000000000000
  if ¬fits ∨ !(⟨n, 0⟩ : Instant).inRange then .error .impossible
  let n ← if f.second = some 60 then
      if n % 60 = 59 then pure n else if n % 60 = 0 then pure (n - 1) else .error .impossible
    else pure n
  let whole : Instant := ⟨n, 0⟩
  let year := (civil whole.day).year
  let filled : Option Fields := do
    let second ← if f.second = some 60 then some (some 60) else agree? f.second (n % 60)
    let y ← agree? f.year year
    let ordinal ← agree? f.ordinal (ordinalOf whole.day)
    let g ← { f with second, year := y, ordinal }.setHour? (whole.secondOfDay / 3600)
    let minute ← agree? g.minute (whole.secondOfDay / 60 % 60)
    return { g with minute }
  match filled with
  | none => .error .impossible
  | some g => do
    let day ← g.date
    let (second, nanos) ← g.time
    return ⟨day, second, nanos⟩

/-- The local time in a place `offset` seconds ahead of Universal Time. A count of seconds must
agree with the date and time, or gives them. -/
def localTime (f : Fields) (offset : Int) : Except FieldsFault LocalTime :=
  match f.date, f.time with
  | .ok day, .ok (second, nanos) =>
    let n := day * 86400 + second - offset
    match f.timestamp with
    | none => .ok ⟨day, second, nanos⟩
    | some t =>
      if t = n ∨ (1000000000 ≤ nanos ∧ t = n + 1) then .ok ⟨day, second, nanos⟩
      else .error .impossible
  | date, time =>
    match f.timestamp with
    | some t =>
      match date, time with
      | .error .impossible, _ | _, .error .impossible => .error .impossible
      | _, _ => f.localTimeOfTimestamp t offset
    | none => .error .incomplete

/-- The instant, if the offset is known or a count of seconds stands for it. -/
def instant? (f : Fields) : Option Instant := do
  let offset ← f.offset <|> f.timestamp.map fun _ => 0
  let t ← (f.localTime offset).toOption
  if offset ≤ -86400 ∨ 86400 ≤ offset then none
  else
    let i := t.toInstant offset
    if i.inRange then some i else none

end Fields

end Slumber.Time
