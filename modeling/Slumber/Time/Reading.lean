import Slumber.Decimal.Reading
import Slumber.Text.Words
import Slumber.Time.Fields
import Slumber.Time.Format

/-!
# Reading a date and time by a format

`Fields.read?` matches a text against the items of a format and collects the parts that it names.
Numbers may stand behind blanks and take at most as many digits as their part has; a year may have a
sign and then any number of digits. Names of months and weekdays are matched in any case, a blank
item takes any number of blanks, and the whole text has to be used up. `Instant.readRfc3339?` reads
the strict notation of instants, `Instant.readRelaxed?` one with blanks and more spellings of the
offset.
-/

namespace Slumber.Time

open Slumber.Text Slumber.Decimal

/-- A reading step: the parts collected so far and the rest of the text. -/
abbrev Reading := Option (Fields × List Char)

/-- Between `least` and `most` digits as a number that fits 64 bits, and the rest. -/
def scanNumber? (least most : Nat) (cs : List Char) : Option (Int × List Char) :=
  let ds := (cs.take most).takeWhile isAsciiDigit
  if ds.length < least then none
  else
    let n := digitsValue ds
    if n ≤ maxSigned64 then some (n, cs.drop ds.length) else none

/-- The digits of a fraction of a second as nanoseconds; digits beyond nine are passed over. -/
def scanFraction? (cs : List Char) : Option (Int × List Char) := do
  let (v, rest) ← scanNumber? 1 9 cs
  let used := cs.length - rest.length
  return (v * Nat.pow 10 (9 - used), rest.dropWhile isAsciiDigit)

/-- Exactly `digits` digits of a fraction of a second as nanoseconds. -/
def scanFixedFraction? (digits : Nat) (cs : List Char) : Option (Int × List Char) := do
  let (v, rest) ← scanNumber? digits digits cs
  return (v * Nat.pow 10 (9 - digits), rest)

/-- Drops `word` from the front, in any case of its letters. -/
def dropWord? (word : List Char) (cs : List Char) : Option (List Char) :=
  if (cs.take word.length).map asciiLower = word then some (cs.drop word.length) else none

/-- The first of the numbered words that stands in front, with its number and the rest. -/
def scanWord? (words : List String) (cs : List Char) : Option (Nat × List Char) :=
  (words.zipIdx).findSome? fun (w, i) => (dropWord? w.toList cs).map fun rest => (i, rest)

/-- The short names of the months. -/
def shortMonths : List String :=
  ["jan", "feb", "mar", "apr", "may", "jun", "jul", "aug", "sep", "oct", "nov", "dec"]

/-- What the long names of the months add to the short ones. -/
def monthEndings : List String :=
  ["uary", "ruary", "ch", "il", "", "e", "y", "ust", "tember", "ober", "ember", "ember"]

/-- The short names of the weekdays, from Sunday. -/
def shortWeekdays : List String :=
  ["sun", "mon", "tue", "wed", "thu", "fri", "sat"]

/-- What the long names of the weekdays add to the short ones. -/
def weekdayEndings : List String :=
  ["day", "day", "sday", "nesday", "rsday", "day", "urday"]

/-- A short name, followed by its ending if that is there, with its number and the rest. -/
def scanName? (short endings : List String) (long : Bool) (cs : List Char) :
    Option (Nat × List Char) := do
  let (i, rest) ← scanWord? short cs
  if long then
    return (i, (dropWord? ((endings[i]?.getD "").toList) rest).getD rest)
  else return (i, rest)

/-- The offset from Universal Time in seconds: a sign, two digits of hours and two of minutes, with
what `between` takes in between. `withZ` allows the letter Z for no offset, `withMinus` the minus
sign beside the hyphen, and `hoursOnly` a text that ends behind the hours. -/
def scanOffset? (between : List Char → Option (List Char)) (withZ hoursOnly withMinus : Bool)
    (cs : List Char) : Option (Int × List Char) := do
  match cs with
  | [] => none
  | c :: rest =>
    if withZ ∧ (c = 'Z' ∨ c = 'z') then some (0, rest)
    else
      let negative ←
        if c = '+' then some false
        else if c = '-' ∨ (withMinus ∧ c = '\u2212') then some true
        else none
      let sign : Int := if negative then -1 else 1
      let (h, rest) ← scanNumber? 2 2 rest
      let rest ← between rest
      match rest with
      | a :: b :: r =>
        if '0' ≤ a ∧ a ≤ '5' ∧ isAsciiDigit b then
          some (sign * (h * 3600 + (digitsValue [a, b] : Nat) * 60), r)
        else none
      | [] => if hoursOnly then some (sign * (h * 3600), []) else none
      | _ => none

/-- Any number of colons and blanks. -/
def dropColons (cs : List Char) : Option (List Char) :=
  some (cs.dropWhile fun c => c == ':' || isBlank c)

/-- Exactly one colon. -/
def dropColon? : List Char → Option (List Char)
  | ':' :: cs => some cs
  | _ => none

/-- A number within limits. -/
def within? (lo hi : Int) (v : Int) : Option Int :=
  if lo ≤ v ∧ v ≤ hi then some v else none

namespace Fields

/-- Enters a number that was read for `field`. -/
def setNumber? (f : Fields) (field : NumericField) (v : Int) : Option Fields :=
  match field with
  | .year => do return { f with year := ← agree? f.year (← within? (-0x80000000) 0x7FFFFFFF v) }
  | .century => do return { f with century := ← agree? f.century (← within? 0 0x7FFFFFFF v) }
  | .yearOfCentury => do
    return { f with yearOfCentury := ← agree? f.yearOfCentury (← within? 0 99 v) }
  | .isoYear => do
    return { f with isoYear := ← agree? f.isoYear (← within? (-0x80000000) 0x7FFFFFFF v) }
  | .isoCentury => do
    return { f with isoCentury := ← agree? f.isoCentury (← within? 0 0x7FFFFFFF v) }
  | .isoYearOfCentury => do
    return { f with isoYearOfCentury := ← agree? f.isoYearOfCentury (← within? 0 99 v) }
  | .quarter => do return { f with quarter := ← agree? f.quarter (← within? 1 4 v) }
  | .month => do return { f with month := ← agree? f.month (← within? 1 12 v) }
  | .day => do return { f with day := ← agree? f.day (← within? 1 31 v) }
  | .weekFromSunday => do
    return { f with weekFromSunday := ← agree? f.weekFromSunday (← within? 0 53 v) }
  | .weekFromMonday => do
    return { f with weekFromMonday := ← agree? f.weekFromMonday (← within? 0 53 v) }
  | .isoWeek => do return { f with isoWeek := ← agree? f.isoWeek (← within? 1 53 v) }
  | .daysFromSunday => do return { f with weekday := ← agree? f.weekday (← within? 0 6 v) }
  | .weekdayFromMonday => do
    return { f with weekday := ← agree? f.weekday ((← within? 1 7 v) % 7) }
  | .ordinal => do return { f with ordinal := ← agree? f.ordinal (← within? 1 366 v) }
  | .hour => f.setHour? v
  | .hour12 => do
    return { f with hourOfHalf := ← agree? f.hourOfHalf ((← within? 1 12 v) % 12) }
  | .minute => do return { f with minute := ← agree? f.minute (← within? 0 59 v) }
  | .second => do return { f with second := ← agree? f.second (← within? 0 60 v) }
  | .nanosecond => do return { f with nanos := ← agree? f.nanos (← within? 0 999999999 v) }
  | .timestamp => do return { f with timestamp := ← agree? f.timestamp v }

/-- Enters the offset from Universal Time. -/
def setOffset? (f : Fields) (v : Int) : Option Fields := do
  return { f with offset := ← agree? f.offset v }

/-- How many digits a number takes at most; a year without a sign takes four. -/
def digitsOf : NumericField → Option Nat
  | .year | .isoYear => some 4
  | .ordinal => some 3
  | .quarter | .daysFromSunday | .weekdayFromMonday => some 1
  | .nanosecond => some 9
  | .timestamp => none
  | _ => some 2

/-- Reads a number behind blanks. -/
def readNumber? (field : NumericField) (f : Fields) (cs : List Char) : Reading := do
  let cs := trimLeft cs
  let most := (digitsOf field).getD cs.length
  let signed := field = .year ∨ field = .isoYear
  let (v, rest) ←
    match cs with
    | '-' :: ds =>
      if signed then (scanNumber? 1 ds.length ds).map fun (v, r) => (-v, r)
      else none
    | '+' :: ds => if signed then scanNumber? 1 ds.length ds else none
    | ds => scanNumber? 1 most ds
  return (← f.setNumber? field v, rest)

/-- Reads a fraction, if a point stands in front. -/
def readFraction? (scan : List Char → Option (Int × List Char)) (f : Fields) (cs : List Char) :
    Reading :=
  match cs with
  | '.' :: cs => do
    let (v, rest) ← scan cs
    return (← f.setNumber? .nanosecond v, rest)
  | cs => some (f, cs)

/-- Reads an instant with its offset, allowing blanks between the parts. -/
def readInstant? (f : Fields) (cs : List Char) : Reading := do
  let number (field : NumericField) (s : Fields × List Char) : Reading :=
    readNumber? field s.1 s.2
  let mark (c : Char) (s : Fields × List Char) : Reading :=
    match trimLeft s.2 with
    | d :: rest => if d = c then some (s.1, rest) else none
    | [] => none
  let s ← number .year (f, cs) >>= mark '-' >>= number .month >>= mark '-' >>= number .day
  let rest ←
    match s.2 with
    | c :: rest => if c = 't' ∨ c = 'T' ∨ c = ' ' then some rest else none
    | [] => none
  let s ← number .hour (s.1, rest) >>= mark ':' >>= number .minute >>= mark ':' >>= number .second
  let (f, rest) ← readFraction? scanFraction? s.1 s.2
  let rest := trimLeft rest
  let (offset, rest) ←
    match dropWord? "utc".toList rest with
    | some rest => some (0, rest)
    | none => scanOffset? dropColons true false true rest
  return (← f.setOffset? offset, rest)

/-- Matches one item of a format. -/
def readItem? (item : FormatItem) (f : Fields) (cs : List Char) : Reading :=
  match item with
  | .literal text => (dropToken? text cs).map fun rest => (f, rest)
  | .blank => some (f, trimLeft cs)
  | .number field => readNumber? field f cs
  | .shortMonth => do
    let (i, rest) ← scanName? shortMonths monthEndings false cs
    return (← f.setNumber? .month (i + 1), rest)
  | .longMonth => do
    let (i, rest) ← scanName? shortMonths monthEndings true cs
    return (← f.setNumber? .month (i + 1), rest)
  | .shortWeekday => do
    let (i, rest) ← scanName? shortWeekdays weekdayEndings false cs
    return (← f.setNumber? .daysFromSunday i, rest)
  | .longWeekday => do
    let (i, rest) ← scanName? shortWeekdays weekdayEndings true cs
    return (← f.setNumber? .daysFromSunday i, rest)
  | .halfDay => do
    let (i, rest) ← scanWord? ["am", "pm"] cs
    return ({ f with halfDay := ← agree? f.halfDay i }, rest)
  | .fraction => readFraction? scanFraction? f cs
  | .fixedFraction digits => readFraction? (scanFixedFraction? digits) f cs
  | .bareFraction digits => do
    let (v, rest) ← scanFixedFraction? digits cs
    return (← f.setNumber? .nanosecond v, rest)
  | .zoneName => some (f, cs.dropWhile fun c => !isBlank c)
  | .offset => do
    let (v, rest) ← scanOffset? dropColons false false true (trimLeft cs)
    return (← f.setOffset? v, rest)
  | .offsetOrZ => do
    let (v, rest) ← scanOffset? dropColons true true true (trimLeft cs)
    return (← f.setOffset? v, rest)
  | .instant => f.readInstant? cs
  | .invalid => none

/-- Matches the items of a format in order. -/
def readItems? : Format → Fields → List Char → Reading
  | [], f, cs => some (f, cs)
  | item :: items, f, cs =>
    match readItem? item f cs with
    | some (f, cs) => readItems? items f cs
    | none => none

/-- The parts that a text gives by a format, if the format matches the whole text. -/
def read? (format : Format) (s : String) : Option Fields :=
  match readItems? format {} s.toList with
  | some (f, []) => some f
  | _ => none

end Fields

/-- The local time that a text gives by a format, not counting an offset in it. -/
def LocalTime.read? (format : Format) (s : String) : Option LocalTime := do
  let f ← Fields.read? format s
  (f.localTime 0).toOption

end Slumber.Time

namespace Slumber.Instant

open Slumber.Time Slumber.Decimal

/-- The instant that a text gives by a format with an offset in it. -/
def read? (format : Format) (s : String) : Option Instant := do
  let f ← Fields.read? format s
  f.instant?

/-- Reads the strict notation: `2024-06-03T12:30:00.5+05:30`, with `T`, `t` or a space before the
time and `Z` or `z` for Universal Time. -/
def readRfc3339? (s : String) : Option Instant := do
  let number (digits : Nat) (field : NumericField) (p : Fields × List Char) : Reading := do
    let (v, rest) ← scanNumber? digits digits p.2
    return (← p.1.setNumber? field v, rest)
  let mark (marks : List Char) (p : Fields × List Char) : Reading :=
    match p.2 with
    | c :: rest => if c ∈ marks then some (p.1, rest) else none
    | [] => none
  let (f, rest) ← number 4 .year ({}, s.toList) >>= mark ['-'] >>= number 2 .month >>= mark ['-']
    >>= number 2 .day >>= mark ['T', 't', ' '] >>= number 2 .hour >>= mark [':']
    >>= number 2 .minute >>= mark [':'] >>= number 2 .second
  let (f, rest) ← Fields.readFraction? scanFraction? f rest
  let (offset, rest) ← scanOffset? dropColon? true false false rest
  if !rest.isEmpty ∨ offset < -86340 ∨ 86340 < offset then none
  else (← f.setOffset? offset).instant?

/-- Reads the relaxed notation, with blanks between the parts and behind them. -/
def readRelaxed? (s : String) : Option Instant := do
  let (f, rest) ← ({} : Fields).readInstant? s.toList
  if (Text.trimLeft rest).isEmpty then f.instant? else none

end Slumber.Instant
