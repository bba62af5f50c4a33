import Slumber.Decimal.Whole
import Slumber.Schedule.Fault
import Slumber.Text.Words
import Slumber.Time.Reading
import Slumber.Time.Zone

/-!
# Times, zones and instants as schedules write them

`readTimeOfDay` reads `H[:MM[:SS]]` as a second of the day and `readZone` the name of a zone, where
a blank name means Universal Time and any other one is looked up in a database of zones. A
`ZonedDateTime` is the text of a date and time with the zone it is meant in; `ZonedDateTime.instant`
gives the instant, from the text alone if that has an offset.
-/

namespace Slumber

open Slumber.Text Slumber.Decimal Slumber.Time

/-- Reads one part of a time of day: one or two characters that write a number. -/
def readClockPart? (limit : Nat) (cs : List Char) : Option Nat :=
  if cs.length ≤ 2 then
    match readUnsigned 255 cs with
    | .ok n => if n ≤ limit then some n else none
    | .error _ => none
  else none

/-- The second of the day that a text writes as hours, and minutes and seconds if it gives them. -/
def readTimeOfDay? (s : String) : Option Nat := do
  match splitOn ':' (trimChars s.toList) with
  | [h] => return (← readClockPart? 23 h) * 3600
  | [h, m] => return (← readClockPart? 23 h) * 3600 + (← readClockPart? 59 m) * 60
  | [h, m, s] =>
    return (← readClockPart? 23 h) * 3600 + (← readClockPart? 59 m) * 60 + (← readClockPart? 59 s)
  | _ => none

/-- The second of the day, or the fault that names the text. -/
def readTimeOfDay (s : String) : Except ScheduleFault Nat :=
  match readTimeOfDay? s with
  | some n => .ok n
  | none => .error (.invalidTimeOfDay s)

/-- A date and time in writing, with the zone it is meant in. -/
structure ZonedDateTime where
  dateTime : String := ""
  zone : String := ""
deriving DecidableEq, Repr

/-- The formats of a date and time without an offset. -/
def localFormats : List Format :=
  [Format.ofText "%Y-%m-%d %H:%M:%S", Format.ofText "%Y-%m-%d %H:%M"]

section

variable [ZoneDatabase]

/-- The zone of a name; a blank name means Universal Time. -/
def readZone (name : String) : Except ScheduleFault Zone :=
  let name := trim name
  if name = "" then .ok Zone.utc
  else
    match ZoneDatabase.find? name with
    | some z => .ok z
    | none => .error (.unknownZone name)

/-- The instant that is meant: the earliest one if the clock shows the time twice. -/
def ZonedDateTime.instant (t : ZonedDateTime) : Except ScheduleFault Instant := do
  let text := trim t.dateTime
  match Instant.readRfc3339? text with
  | some i => return i
  | none =>
    let zone ← readZone t.zone
    let shown := localFormats.findSome? fun f => LocalTime.read? f text
    match shown.bind fun t => (zone.fromLocal t).earliest? with
    | some i => return i
    | none => .error (.invalidDateTime text)

end

end Slumber
