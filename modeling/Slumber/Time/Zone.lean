import Slumber.Time.Fields

/-!
# Time zones

A zone is a clock: an offset from Universal Time for every second, and what the clock answers to a
local time, the instants at which it shows that time. `Zone.localTime` is what the clock shows at an
instant, and `LocalResult.earliest?` the first of the instants in an answer.

The zones and their names come from a `ZoneDatabase`, which knows the clocks of the world. Nothing
is said here about the clocks in it; `Zone.utc`, the clock of Universal Time, is the only one that
is given.
-/

namespace Slumber

namespace Time

/-- The instants at which a clock shows a local time: none, one, or two, as when the clock is put
back. -/
inductive LocalResult where
  | none
  | single (instant : Instant)
  | ambiguous (earliest latest : Instant)
deriving DecidableEq, Repr

/-- The first of the instants. -/
def LocalResult.earliest? : LocalResult → Option Instant
  | .none => Option.none
  | .single i => some i
  | .ambiguous i _ => some i

/-- A clock under its name: its offset in seconds at every second of Universal Time, and its answer
to a local time. -/
structure Zone where
  name : String
  offsetAt : Int → Int
  fromLocal : LocalTime → LocalResult

namespace Zone

/-- What the clock shows at an instant. -/
def localTime (z : Zone) (t : Instant) : LocalTime :=
  let n := t.seconds + z.offsetAt t.seconds
  ⟨n / 86400, (n % 86400).toNat, t.nanos⟩

/-- The clock of Universal Time. -/
def utc : Zone where
  name := "UTC"
  offsetAt _ := 0
  fromLocal t :=
    let i : Instant := ⟨t.day * 86400 + t.second, t.nanos⟩
    if i.inRange then .single i else .none

end Zone

end Time

/-- Zones under their names. -/
class ZoneDatabase where
  /-- The zone of a name, if there is one. -/
  find? : String → Option Time.Zone

end Slumber
