import Slumber.Decimal.Whole
import Slumber.Text.Blank
import Slumber.Time.Instant

/-!
# Shifting an instant by a written period

A period is an optional minus sign and groups of digits with a unit: `20d`, `-1d`, `1h30m`. Units
are days, hours, minutes and seconds, in any order and as often as wanted. `Period.seconds?` reads
one; `Instant.shift` moves an instant by it. A period may be too long for a length of time at all;
that is a failure of its own, `PeriodFault.overflow`, and not a wrong period.
-/

namespace Slumber

namespace Period

open Slumber.Text Slumber.Decimal

/-- The seconds of a unit. -/
def unitSeconds? : Char → Option Nat
  | 'd' => some 86400
  | 'h' => some 3600
  | 'm' => some 60
  | 's' => some 1
  | _ => none

/-- Adds up the groups of a period: `total` is the sum so far and `digits` the digits of the group
that is being read, the last one in front. -/
def sumGroups? (total : Nat) (digits : List Char) : List Char → Option Nat
  | [] => if digits.isEmpty then some total else none
  | c :: cs =>
    if isAsciiDigit c then sumGroups? total (c :: digits) cs
    else do
      let unit ← unitSeconds? c
      let amount ← digits? digits.reverse
      let sum := total + amount * unit
      if amount ≤ maxSigned64 ∧ sum ≤ maxSigned64 then sumGroups? sum [] cs else none

/-- The signed seconds of a period. -/
def seconds? (period : String) : Option Int :=
  match trimChars period.toList with
  | [] => none
  | '-' :: cs => if cs.isEmpty then none else (sumGroups? 0 [] cs).map fun n => -(n : Int)
  | cs => (sumGroups? 0 [] cs).map Int.ofNat

/-- The longest length of time, in seconds: as many milliseconds as fit 64 signed bits. -/
def longest : Int := 9223372036854775

end Period

/-- Why an instant cannot be shifted by a period. -/
inductive PeriodFault where
  | invalid
  | overflow
deriving DecidableEq, Repr

/-- The instant moved by a written period. -/
def Instant.shift (t : Instant) (period : String) : Except PeriodFault Instant :=
  match Period.seconds? period with
  | none => .error .invalid
  | some n =>
    if n < -Period.longest ∨ Period.longest < n then .error .overflow
    else
      match t.addSeconds? n with
      | some u => .ok u
      | none => .error .invalid

end Slumber
