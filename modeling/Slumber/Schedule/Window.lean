import Slumber.Schedule.Clock
import Slumber.Schedule.Weekday

/-!
# Weekly windows

A schedule is a list of ranges, each a span of weekdays and a span of the day, on the clock of one
zone. A range whose first weekday comes after its last one goes over the end of the week; it is
split into two windows, each of which lies within one week. `WeeklySchedule.gapAt` says whether an
instant lies in a window, and in how many seconds the next boundary comes: the end of the window on
that day, or the start of the next window. A window that would end before it starts never opens.
-/

namespace Slumber

open Slumber.Time

/-- A weekly range in writing. -/
structure WeeklyRange where
  timeFrom : String
  timeTo : String
  weekdayFrom : String
  weekdayTo : String
deriving DecidableEq, Repr

/-- Weekly ranges on the clock of a zone. -/
structure WeeklySchedule where
  ranges : List WeeklyRange := []
  zone : String := ""
deriving DecidableEq, Repr

/-- Seconds of a day. -/
def secondsPerDay : Nat := 86400

/-- Seconds of a week. -/
def secondsPerWeek : Nat := 604800

/-- A point of the week: a day, where Sunday is 0, and the second of the day. -/
structure WeekPoint where
  day : Nat
  second : Nat
deriving DecidableEq, Repr

/-- The seconds from the start of the week. -/
def WeekPoint.position (p : WeekPoint) : Nat :=
  p.day * secondsPerDay + p.second

/-- The point of the week that the clock of a zone shows at an instant. -/
def WeekPoint.at (z : Zone) (t : Instant) : WeekPoint :=
  let shown := z.localTime t
  ⟨weekdayOf shown.day, shown.second⟩

/-- The part of a range that lies within one week: on each day from `firstDay` to `lastDay`, the
seconds from `opens` to `closes`. -/
structure Window where
  range : Nat
  firstDay : Nat
  lastDay : Nat
  opens : Nat
  closes : Nat
deriving DecidableEq, Repr

namespace Window

/-- Whether the window ever opens. -/
def isLive (w : Window) : Bool :=
  w.opens ≤ w.closes

/-- Whether a point of the week lies in the window, both ends included. -/
def contains (w : Window) (p : WeekPoint) : Bool :=
  w.firstDay ≤ p.day && p.day ≤ w.lastDay && w.opens ≤ p.second && p.second ≤ w.closes

/-- The days of the window. -/
def days (w : Window) : List Nat :=
  (List.range (w.lastDay + 1 - w.firstDay)).map (w.firstDay + ·)

/-- The seconds from a point of the week to the next start of the window. -/
def untilStart (w : Window) (p : WeekPoint) : Nat :=
  let wait (day : Nat) : Nat :=
    let start := day * secondsPerDay + w.opens
    if start < p.position then start + secondsPerWeek - p.position else start - p.position
  ((w.days.map wait).min?).getD secondsPerWeek

end Window

/-- The windows of the range with number `n`. -/
def WeeklyRange.windows (n : Nat) (r : WeeklyRange) : Except ScheduleFault (List Window) := do
  let day (s : String) : Except ScheduleFault Nat :=
    match Weekday.ofText? s with
    | some d => .ok d.ordinal
    | none => .error (.unknownWeekday s)
  let first ← day r.weekdayFrom
  let last ← day r.weekdayTo
  let opens ← readTimeOfDay r.timeFrom
  let closes ← readTimeOfDay r.timeTo
  if first ≤ last then return [⟨n, first, last, opens, closes⟩]
  else return [⟨n, first, 6, opens, closes⟩, ⟨n, 0, last, opens, closes⟩]

/-- The windows of ranges that are numbered from `n` on. -/
def windowsFrom (n : Nat) : List WeeklyRange → Except ScheduleFault (List Window)
  | [] => .ok []
  | r :: rs => do
    let ws ← r.windows n
    let rest ← windowsFrom (n + 1) rs
    return ws ++ rest

/-- The time to a boundary: of the window of a range, when the instant lies in that, or else to the
start of the next window. -/
structure Gap where
  seconds : Nat
  range : Option Nat
deriving DecidableEq, Repr

namespace Gap

/-- Whether the instant lies in a window. -/
def isInside (g : Gap) : Bool :=
  g.range.isSome

/-- Whether a gap comes before another: one inside a window before one outside, then the shorter. -/
def isBetter (g h : Gap) : Bool :=
  if g.isInside = h.isInside then g.seconds < h.seconds else g.isInside

/-- The gap that one window gives at a point of the week. -/
def ofWindow (p : WeekPoint) (w : Window) : Gap :=
  if w.contains p then ⟨w.closes - p.second, some w.range⟩ else ⟨w.untilStart p, none⟩

/-- The first of the best gaps. -/
def best? : List Gap → Option Gap
  | [] => none
  | g :: gs => some (gs.foldl (fun best h => if h.isBetter best then h else best) g)

end Gap

namespace WeeklySchedule

/-- The gap at a point of the week. Without a window that opens, the next look is a week later. -/
def gapAtPoint (windows : List Window) (p : WeekPoint) : Gap :=
  (Gap.best? ((windows.filter Window.isLive).map (Gap.ofWindow p))).getD ⟨secondsPerWeek, none⟩

/-- The time from an instant to the nearest boundary. -/
def gapAt [ZoneDatabase] (s : WeeklySchedule) (t : Instant) : Except ScheduleFault Gap := do
  let zone ← readZone s.zone
  let windows ← windowsFrom 0 s.ranges
  return gapAtPoint windows (WeekPoint.at zone t)

end WeeklySchedule

/-- The delay until the next look at a schedule: the gap, capped by the interval for looking again
if that is positive, and never below `floor`. -/
def requeueDelay (gap interval : Int) (floor : Duration) : Duration :=
  let seconds := if 0 < interval then min gap interval else gap
  Duration.max ⟨seconds.toNat, 0⟩ floor

end Slumber
