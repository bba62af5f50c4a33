import Slumber.FiniteMap
import Slumber.Overflow

/-!
# Delays that grow with repeated failures

After each failure the next attempt waits for longer: the delays are the Fibonacci numbers times a
least delay, up to a greatest one, in minutes. `Backoff.next` gives a delay and moves on.
`BackoffTracker` keeps one sequence and a count of failures for each key, and `reset` starts the
sequence of a key anew. Minutes and seconds are numbers of 64 bits, and counts of failures are
numbers of 32 bits; a failure for which one of them gets too large has no delay.
-/

namespace Slumber

/-- A sequence of delays in minutes. -/
structure Backoff where
  least : UInt64
  previous : UInt64
  current : UInt64
  greatest : UInt64
deriving DecidableEq, Repr

namespace Backoff

/-- The sequence from its start. The greatest delay is not below the least one. -/
def start (least greatest : UInt64) : Backoff :=
  ⟨least, 0, least, max greatest least⟩

/-- The delay in seconds, and the sequence behind it. -/
def next (b : Backoff) : Except Overflow (UInt64 × Backoff) := do
  let seconds ← word64 (b.current.toNat * 60)
  let sum ← word64 (b.previous.toNat + b.current.toNat)
  return (seconds, { b with previous := b.current, current := min sum b.greatest })

/-- The sequence at its start again. -/
def reset (b : Backoff) : Backoff :=
  { b with previous := 0, current := b.least }

end Backoff

/-- The failures of one key: its delays, and how many there were in a row. -/
structure FailureState where
  backoff : Backoff
  failures : UInt32
deriving DecidableEq, Repr

namespace FailureState

/-- No failure yet. -/
def start (least greatest : UInt64) : FailureState :=
  ⟨.start least greatest, 0⟩

/-- One more failure: its delay in seconds, and the failures with it. -/
def next (s : FailureState) : Except Overflow (UInt64 × FailureState) := do
  let failures ← word32 (s.failures.toNat + 1)
  let (delay, backoff) ← s.backoff.next
  return (delay, ⟨backoff, failures⟩)

/-- The failures are forgotten. -/
def reset (s : FailureState) : FailureState :=
  ⟨s.backoff.reset, 0⟩

end FailureState

/-- The failures of many keys. -/
structure BackoffTracker where
  least : UInt64
  greatest : UInt64
  states : FiniteMap String FailureState := []
deriving DecidableEq, Repr

namespace BackoffTracker

/-- The failures of a key, also of one that has had none. -/
def stateOf (t : BackoffTracker) (key : String) : FailureState :=
  (t.states.find? key).getD (.start t.least t.greatest)

/-- Notes a failure of a key: the delay in seconds, the number of failures in a row, and the tracker
behind it. An overflow is not noted, so that the next failure of the key overflows as well. -/
def recordError (t : BackoffTracker) (key : String) :
    Except Overflow ((UInt64 × UInt32) × BackoffTracker) := do
  let (delay, s) ← (t.stateOf key).next
  return ((delay, s.failures), { t with states := t.states.insert key s })

/-- Forgets the failures of a key. -/
def reset (t : BackoffTracker) (key : String) : BackoffTracker :=
  match t.states.find? key with
  | some s => { t with states := t.states.insert key s.reset }
  | none => t

end BackoffTracker

end Slumber
