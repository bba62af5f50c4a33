import Slumber.Decimal.Binary

/-!
# The shortest decimal of a floating-point number

Among all decimals that read back as a given number, `shortest` gives one with the fewest digits,
and of those the nearest. A decimal reads back when it lies between the midpoints to the two
neighbouring numbers; the midpoints themselves count when the mantissa is even. For 1, 2, … digits
the two decimals around the value on that grid are tried, all in exact arithmetic; seventeen digits
always suffice. `FloatStyle` says how the digits are then written, and `floatText` writes them.
-/

namespace Slumber.Decimal

/-- The decimal `digits * 10 ^ exponent`. -/
structure Scaled where
  digits : Nat
  exponent : Int
deriving DecidableEq, Repr

/-- The number of decimal digits of `n`; zero has one. -/
def digitCount (n : Nat) : Nat :=
  (Nat.toDigits 10 n).length

/-- The `k` with `10 ^ k ≤ n / d < 10 ^ (k + 1)`, for positive `n` and `d`. -/
def decimalExponent (n d : Nat) : Int :=
  if d ≤ n then (digitCount (n / d) : Int) - 1
  else Int.negOfNat (digitCount ((d + n - 1) / n - 1))

/-- A value with the interval of decimals that read back as it, all over one denominator. -/
structure Interval where
  low : Nat
  value : Nat
  high : Nat
  denominator : Nat
  closed : Bool

/-- The interval of the decimals that round to `m * 2 ^ q`. The gap below a power of two is half as
wide as the gap above, except at the smallest exponent. -/
def Interval.ofBinary (m : Nat) (q : Int) : Interval :=
  let below := if m = hiddenBit ∧ q ≠ -1074 then 1 else 2
  let scale := Nat.pow 2 (q - 2).toNat
  ⟨(4 * m - below) * scale, 4 * m * scale, (4 * m + 2) * scale, Nat.pow 2 (2 - q).toNat, m % 2 = 0⟩

/-- Whether `t * 10 ^ e` lies in the interval. -/
def Interval.holds (i : Interval) (t : Nat) (e : Int) : Bool :=
  let x := t * Nat.pow 10 e.toNat * i.denominator
  let unit := Nat.pow 10 (-e).toNat
  if i.closed then i.low * unit ≤ x && x ≤ i.high * unit
  else i.low * unit < x && x < i.high * unit

/-- The nearest decimal of the grid `10 ^ e` that lies in the interval, if one does. -/
def Interval.onGrid (i : Interval) (e : Int) : Option Nat :=
  let up := i.value * Nat.pow 10 (-e).toNat
  let unit := i.denominator * Nat.pow 10 e.toNat
  let t := up / unit
  match i.holds t e, i.holds (t + 1) e with
  | true, true => if 2 * (up % unit) ≤ unit then some t else some (t + 1)
  | true, false => some t
  | false, true => some (t + 1)
  | false, false => none

/-- Tries the grids with `n`, `n + 1`, … digits; `top` is the decimal exponent of the value. -/
def Interval.search (i : Interval) (top : Int) : Nat → Nat → Scaled
  | 0, _ => ⟨0, 0⟩
  | fuel + 1, n =>
    let e := top - n + 1
    match i.onGrid e with
    | some t => ⟨t, e⟩
    | none => i.search top fuel (n + 1)

/-- Moves trailing zeros of the digits into the exponent. -/
def Scaled.strip (fuel : Nat) (s : Scaled) : Scaled :=
  match fuel with
  | 0 => s
  | fuel + 1 =>
    if s.digits ≠ 0 ∧ s.digits % 10 = 0 then Scaled.strip fuel ⟨s.digits / 10, s.exponent + 1⟩
    else s

/-- The shortest decimal that reads back as `m * 2 ^ q`. -/
def shortest (m : Nat) (q : Int) : Scaled :=
  if m = 0 then ⟨0, 0⟩
  else
    let i := Interval.ofBinary m q
    (i.search (decimalExponent i.value i.denominator) 18 1).strip 20

/-- How the digits of a number are laid out: the point stands among the digits or beside zeros
while its place (the digits before it, counted from the first digit that is not zero) is between
`leastPlace` and `greatestPlace`, and an exponent is written otherwise. -/
structure FloatStyle where
  leastPlace : Int
  greatestPlace : Int
  nan : String
  infinity : String

/-- Numbers in messages: an exponent below `1e-4` and from `1e16` on. -/
def FloatStyle.message : FloatStyle := ⟨-3, 16, "NaN", "inf"⟩

/-- Numbers in documents: an exponent below `1e-5` and from `1e16` on. A document has no text for
what is not finite. -/
def FloatStyle.document : FloatStyle := ⟨-4, 16, "null", "null"⟩

/-- Writes a decimal: always with a digit behind the point, or with an exponent. -/
def FloatStyle.write (style : FloatStyle) (s : Scaled) : String :=
  let ds := Nat.toDigits 10 s.digits
  let place := (ds.length : Int) + s.exponent
  if s.digits = 0 then "0.0"
  else if style.leastPlace ≤ place ∧ place ≤ style.greatestPlace then
    if place ≤ 0 then
      "0." ++ String.ofList (List.replicate (-place).toNat '0' ++ ds)
    else if 0 ≤ s.exponent then
      String.ofList (ds ++ List.replicate s.exponent.toNat '0') ++ ".0"
    else
      String.ofList (ds.take place.toNat) ++ "." ++ String.ofList (ds.drop place.toNat)
  else
    let tail := ds.drop 1
    String.ofList (ds.take 1) ++ (if tail.isEmpty then "" else "." ++ String.ofList tail)
      ++ "e" ++ toString (place - 1)

/-- The shortest text of `x` in a style. -/
def floatText (style : FloatStyle) (x : Float) : String :=
  match classify x with
  | .nan => style.nan
  | .infinite negative => (if negative then "-" else "") ++ style.infinity
  | .finite b => (if b.negative then "-" else "") ++ style.write (shortest b.mantissa b.exponent)

end Slumber.Decimal
