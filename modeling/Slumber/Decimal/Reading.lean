import Slumber.Decimal.Whole

/-!
# Reading a floating-point number

`readFloat?` reads the usual notations of a number: digits with an optional point and an optional
exponent, a sign in front, and the words for infinity and for what is not a number, in any case.
At least one digit must stand beside the point. The value is the number nearest to the decimal.
-/

namespace Slumber.Decimal

open Slumber.Text

/-- The number nearest to `m * 10 ^ e`. Decimals far outside the range of numbers are settled by
their size alone, so that no huge power is computed. -/
def nearestFloat (m : Nat) (e : Int) : Float :=
  if m = 0 then 0.0
  else
    let top := ((Nat.toDigits 10 m).length : Int) + e
    if 400 < top then 1.0 / 0.0
    else if top < -400 then 0.0
    else if 0 ≤ e then Float.ofScientific m false e.toNat
    else Float.ofScientific m true (-e).toNat

/-- The digits at the front of a list, and the rest. -/
def spanDigits (cs : List Char) : List Char × List Char :=
  (cs.takeWhile isAsciiDigit, cs.dropWhile isAsciiDigit)

/-- The number that a list of digits writes; no digits write zero. -/
def digitsValue (cs : List Char) : Nat :=
  cs.foldl (fun n c => n * 10 + (c.toNat - 48)) 0

/-- Reads a whole list as an exponent: an optional sign and at least one digit. -/
def readExponent? (cs : List Char) : Option Int :=
  let value? (ds : List Char) : Option Int :=
    if ds ≠ [] ∧ ds.all isAsciiDigit then some (digitsValue ds) else none
  match cs with
  | '-' :: ds => (value? ds).map (- ·)
  | '+' :: ds => value? ds
  | ds => value? ds

/-- Reads a number without a sign in front. -/
def readMagnitude? (cs : List Char) : Option Float :=
  let (whole, rest) := spanDigits cs
  let (fraction, rest) :=
    match rest with
    | '.' :: r => spanDigits r
    | r => ([], r)
  if whole = [] ∧ fraction = [] then none
  else
    let m := digitsValue (whole ++ fraction)
    let e := -(fraction.length : Int)
    match rest with
    | [] => some (nearestFloat m e)
    | c :: r =>
      if c = 'e' ∨ c = 'E' then (readExponent? r).map fun x => nearestFloat m (e + x) else none

/-- Reads a number, an infinity or the word for what is no number. -/
def readFloat? (cs : List Char) : Option Float :=
  let (negative, body) :=
    match cs with
    | '-' :: r => (true, r)
    | '+' :: r => (false, r)
    | r => (false, r)
  let signed (x : Float) : Float := if negative then -x else x
  let word := body.map asciiLower
  if word = "inf".toList ∨ word = "infinity".toList then some (signed (1.0 / 0.0))
  else if word = "nan".toList then some (0.0 / 0.0)
  else (readMagnitude? body).map signed

end Slumber.Decimal
