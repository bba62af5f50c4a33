import Slumber.Time.Zone

/-!
# Clocks with a history

A clock of the world has an offset at first and changes it at certain instants, which are known:
its `ClockHistory`. `ClockHistory.zone` is the zone of such a clock. It answers to a local time by
trying each offset that it ever has. Clocks that are put forward and back every year follow
`ClockRule`s, which are laid out in advance for the years up to 2099; after those years a clock
keeps the offset it has. `ZoneDatabase.ofHistories` is a database of clocks whose histories are
given, and `ClockHistory.paris` is one of them.
-/

namespace Slumber

namespace Time

/-- A clock under a name: the offset from Universal Time in seconds before the first change, and the
changes: from which second on the clock has which offset, in ascending order. -/
structure ClockHistory where
  name : String
  initial : Int
  changes : List (Int × Int)

namespace ClockHistory

/-- The offset in force at a second of Universal Time. -/
def offsetAt (h : ClockHistory) (second : Int) : Int :=
  match h.changes.reverse.find? fun c => c.1 ≤ second with
  | some c => c.2
  | none => h.initial

/-- The offsets that the clock ever has. -/
def offsets (h : ClockHistory) : List Int :=
  h.initial :: h.changes.map (·.2)

/-- The seconds of Universal Time at which the clock shows a time, one for each offset that it ever
has, as far as they are in range. -/
def candidates (h : ClockHistory) (t : LocalTime) : List Int :=
  h.offsets.filterMap fun offset =>
    let n := t.day * 86400 + t.second - offset
    if h.offsetAt n = offset ∧ (⟨n, t.nanos⟩ : Instant).inRange then some n else none

/-- The first and the last instant at which the clock shows a time. A time that is skipped when the
clock is put forward is never shown. -/
def fromLocal (h : ClockHistory) (t : LocalTime) : LocalResult :=
  match (h.candidates t).min?, (h.candidates t).max? with
  | some first, some last =>
    if first = last then .single ⟨first, t.nanos⟩ else .ambiguous ⟨first, t.nanos⟩ ⟨last, t.nanos⟩
  | _, _ => .none

/-- The zone of the clock. -/
def zone (h : ClockHistory) : Zone where
  name := h.name
  offsetAt := h.offsetAt
  fromLocal := h.fromLocal

end ClockHistory

/-! ### Clocks that change every year -/

/-- A day of a month: a fixed one, the last Sunday, or the first Sunday from some day on. -/
inductive RuleDay where
  | fixed (day : Nat)
  | lastSunday
  | sundayFrom (day : Nat)

/-- Which clock shows the time of a change: the one that is changed, the same clock without saving,
or the one of Universal Time. -/
inductive RuleClock where
  | wall | standard | universal

/-- A change of the clock in every year of a period: the clock is then ahead of standard time by
`saving` seconds. -/
structure ClockRule where
  firstYear : Int
  lastYear : Int
  month : Nat
  day : RuleDay
  second : Nat
  clock : RuleClock
  saving : Int

namespace ClockRule

/-- The day of the change in a year. -/
def dayIn (r : ClockRule) (year : Int) : Int :=
  match r.day with
  | .fixed d => dayNumber ⟨year, r.month, d⟩
  | .lastSunday =>
    let n := dayNumber ⟨year, r.month, daysInMonth year r.month⟩
    n - weekdayOf n
  | .sundayFrom d =>
    let n := dayNumber ⟨year, r.month, d⟩
    n + (7 - weekdayOf n) % 7

/-- The second of Universal Time of the change in a year, when standard time is `standard` seconds
ahead and the clock was `saving` seconds ahead of that until then. -/
def secondIn (r : ClockRule) (standard saving year : Int) : Int :=
  let n := r.dayIn year * 86400 + r.second
  match r.clock with
  | .wall => n - standard - saving
  | .standard => n - standard
  | .universal => n

/-- The years that are laid out. -/
def years : List Int :=
  (List.range 133).map fun (i : Nat) => 1967 + Int.ofNat i

/-- The changes of all years in their order. -/
def layOut (rules : List ClockRule) : List (ClockRule × Int) :=
  years.flatMap fun year =>
    let active := rules.filter fun r => r.firstYear ≤ year ∧ year ≤ r.lastYear
    (active.mergeSort fun a b => a.dayIn year ≤ b.dayIn year).map fun r => (r, year)

/-- The changes as instants and offsets, for a clock that is `saving` seconds ahead of standard time
before the first of them. -/
def changesFrom (standard : Int) : Int → List (ClockRule × Int) → List (Int × Int)
  | _, [] => []
  | saving, (r, year) :: rest =>
    (r.secondIn standard saving year, standard + r.saving) :: changesFrom standard r.saving rest

/-- The changes of a clock that follows the rules on top of standard time. -/
def changes (rules : List ClockRule) (standard : Int) : List (Int × Int) :=
  changesFrom standard 0 (layOut rules)

end ClockRule

end Time

/-- The clocks of some histories under their names, whose case counts. -/
@[reducible] def ZoneDatabase.ofHistories (histories : List Time.ClockHistory) : ZoneDatabase where
  find? name := (histories.find? fun h => h.name = name).map Time.ClockHistory.zone

/-! ### The clock of Paris -/

namespace Time.ClockHistory

/-- A change on the same rule in every year of a period. -/
def yearly (firstYear lastYear : Int) (month : Nat) (day : RuleDay) (second : Nat)
    (clock : RuleClock) (saving : Int) : ClockRule :=
  ⟨firstYear, lastYear, month, day, second, clock, saving⟩

/-- The last year of a rule without an end. -/
def forever : Int := 9999

/-- The rules of France, which since 1977 are those of Europe: one o'clock in Universal Time. -/
def parisRules : List ClockRule :=
  [yearly 1976 1976 3 (.fixed 28) 3600 .wall 3600,
   yearly 1976 1976 9 (.fixed 26) 3600 .wall 0,
   yearly 1977 1980 4 (.sundayFrom 1) 3600 .universal 3600,
   yearly 1977 1977 9 .lastSunday 3600 .universal 0,
   yearly 1978 1978 10 (.fixed 1) 3600 .universal 0,
   yearly 1979 1995 9 .lastSunday 3600 .universal 0,
   yearly 1981 forever 3 .lastSunday 3600 .universal 3600,
   yearly 1996 forever 10 .lastSunday 3600 .universal 0]

/-- The clock of Paris since 1976. -/
def paris : ClockHistory :=
  ⟨"Europe/Paris", 3600, ClockRule.changes parisRules 3600⟩

/-- A database with the clock of Paris only, which is in use where `ClockHistory` is opened. -/
scoped instance parisian : ZoneDatabase :=
  .ofHistories [paris]

end Time.ClockHistory

end Slumber
