/-!
# Classes of characters given by ranges of code points

A class outside ASCII is written as the ranges of its code points, in hexadecimal, apart by spaces
and line ends: `AA B5 C0-D6`. `CodePoints.ofText` reads such a list and `CodePoints.contains` looks
a character up by halving. The tables that use this are `Letters`, `Quoted` and the classes of
patterns.
-/

namespace Slumber.Text

/-- The value of a hexadecimal digit. -/
def hexDigit? (c : Char) : Option Nat :=
  if '0' ≤ c ∧ c ≤ '9' then some (c.toNat - 48)
  else if 'a' ≤ c ∧ c ≤ 'f' then some (c.toNat - 87)
  else if 'A' ≤ c ∧ c ≤ 'F' then some (c.toNat - 55)
  else none

/-- The sixteen hexadecimal digits, lower case. -/
def hexDigits : List Char := "0123456789abcdef".toList

/-- The hexadecimal text of `n`, lower case and without leading zeros. -/
def hexText (n : Nat) : String :=
  String.ofList (Nat.toDigits 16 n)

/-- A class of characters: the first and last code points of its ranges, in ascending order. -/
structure CodePoints where
  ranges : Array (Nat × Nat)

namespace CodePoints

/-- Reads ranges written `C0-D6` or `AA`. What is not a hexadecimal digit, a dash, a line end
or a space does not occur in the tables. -/
def ofText (s : String) : CodePoints :=
  let step : List (Nat × Nat) × Option Nat × Nat × Bool → Char →
      List (Nat × Nat) × Option Nat × Nat × Bool :=
    fun (done, lo, n, any) c =>
      if c = ' ' ∨ c = '\n' then
        if any then ((lo.getD n, n) :: done, none, 0, false) else (done, none, 0, false)
      else if c = '-' then (done, some n, 0, false)
      else (done, lo, n * 16 + (hexDigit? c).getD 0, true)
  let (done, _, _, _) := (s.toList ++ [' ']).foldl step ([], none, 0, false)
  ⟨done.reverse.toArray⟩

/-- Whether `n` lies in one of the ranges from index `lo` to below `hi`; halves that stretch, so
`fuel` above its binary length is enough. -/
def searchFrom (rs : Array (Nat × Nat)) (n : Nat) : Nat → Nat → Nat → Bool
  | 0, _, _ => false
  | fuel + 1, lo, hi =>
    if lo < hi then
      let mid := (lo + hi) / 2
      match rs[mid]? with
      | none => false
      | some (a, b) =>
        if n < a then searchFrom rs n fuel lo mid
        else if b < n then searchFrom rs n fuel (mid + 1) hi
        else true
    else false

/-- Whether the class holds the character `c`. -/
def contains (p : CodePoints) (c : Char) : Bool :=
  searchFrom p.ranges c.toNat 64 0 p.ranges.size

end CodePoints

end Slumber.Text
