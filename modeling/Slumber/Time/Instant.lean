import Slumber.Decimal.Whole
import Slumber.Time.Calendar

/-!
# Instants and durations

An instant is a second counted from 1970 in Universal Time and the nanoseconds since that second. A
leap second has no count of its own: it is the second before it with a thousand million nanoseconds
or more. `Instant.elapsed` is the time between two instants, `Instant.addSeconds?` moves an instant,
and `Instant.text` writes one as `2024-06-03T12:30:00.500Z`.
-/

namespace Slumber

/-- A point in time: seconds from 1970 in Universal Time, and nanoseconds. -/
structure Instant where
  seconds : Int
  nanos : Nat
deriving DecidableEq, Repr

/-- A length of time that is not negative. -/
structure Duration where
  seconds : Nat
  nanos : Nat := 0
deriving DecidableEq, Repr

namespace Duration

/-- The longer of two lengths. -/
def max (a b : Duration) : Duration :=
  if a.seconds < b.seconds ∨ (a.seconds = b.seconds ∧ a.nanos < b.nanos) then b else a

/-- Whether the length is shorter than another one. -/
def lt (a b : Duration) : Bool :=
  a.seconds < b.seconds || (a.seconds == b.seconds && a.nanos < b.nanos)

end Duration

namespace Instant

/-- Nanoseconds of a second. -/
def nanosPerSecond : Int := 1000000000

/-- The day of an instant. -/
def day (t : Instant) : Int :=
  t.seconds / 86400

/-- The second of its day. -/
def secondOfDay (t : Instant) : Nat :=
  (t.seconds % 86400).toNat

/-- Whether an instant lies in a leap second. -/
def isLeap (t : Instant) : Bool :=
  1000000000 ≤ t.nanos

/-- Whether an instant lies on a day in use. -/
def inRange (t : Instant) : Bool :=
  Time.isDay t.day

/-- Whether an instant is before another. -/
def before (a b : Instant) : Bool :=
  a.seconds < b.seconds || (a.seconds == b.seconds && a.nanos < b.nanos)

/-- The nanoseconds from `b` to `a`, negative when `a` is earlier. A leap second counts when the
time of day of the other instant lies beyond it. -/
def elapsed (a b : Instant) : Int :=
  let s := a.secondOfDay
  let r := b.secondOfDay
  let leap : Int :=
    if r < s ∧ b.isLeap then 1 else if s < r ∧ a.isLeap then -1 else 0
  (a.seconds - b.seconds + leap) * nanosPerSecond + ((a.nanos : Int) - b.nanos)

/-- The whole seconds from `b` to `a`, cut toward zero. -/
def elapsedSeconds (a b : Instant) : Int :=
  (elapsed a b).tdiv nanosPerSecond

/-- The time from `b` to `a`, if `a` is not earlier. -/
def since? (a b : Instant) : Option Duration :=
  let n := elapsed a b
  if 0 ≤ n then some ⟨(n / nanosPerSecond).toNat, (n % nanosPerSecond).toNat⟩ else none

/-- An instant moved by whole seconds. Leaving a leap second forward starts from the second it
shares its count with, leaving it backward from the second after it. -/
def addSeconds (t : Instant) (n : Int) : Instant :=
  if !t.isLeap ∨ n = 0 then ⟨t.seconds + n, t.nanos⟩
  else if 0 < n then ⟨t.seconds + n, t.nanos - 1000000000⟩
  else ⟨t.seconds + 1 + n, t.nanos - 1000000000⟩

/-- An instant moved by whole seconds, if it stays on the days in use. -/
def addSeconds? (t : Instant) (n : Int) : Option Instant :=
  let u := t.addSeconds n
  if u.inRange then some u else none

/-- A year as it stands in front of a date: four digits, or a sign and at least four digits. -/
def yearText (y : Int) : String :=
  if 0 ≤ y ∧ y ≤ 9999 then Decimal.padded 4 y.toNat
  else (if y < 0 then "-" else "+") ++ Decimal.padded 4 y.natAbs

/-- The fraction of a second with the fewest of 0, 3, 6 or 9 digits that is exact. -/
def fractionText (n : Nat) : String :=
  if n = 0 then ""
  else if n % 1000000 = 0 then "." ++ Decimal.padded 3 (n / 1000000)
  else if n % 1000 = 0 then "." ++ Decimal.padded 6 (n / 1000)
  else "." ++ Decimal.padded 9 n

/-- The text of an instant in Universal Time. -/
def text (t : Instant) : String :=
  let d := Time.civil t.day
  let s := t.secondOfDay
  let leap := if t.isLeap then 1 else 0
  yearText d.year ++ "-" ++ Decimal.padded 2 d.month ++ "-" ++ Decimal.padded 2 d.day ++ "T"
    ++ Decimal.padded 2 (s / 3600) ++ ":" ++ Decimal.padded 2 (s / 60 % 60) ++ ":"
    ++ Decimal.padded 2 (s % 60 + leap) ++ fractionText (t.nanos % 1000000000) ++ "Z"

end Instant

end Slumber
