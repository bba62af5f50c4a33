/-!
# The exact value of a binary floating-point number

A finite number of 64 bits is `m * 2 ^ q` up to its sign, with whole `m` and `q`. `Binary.ofFloat`
takes the two apart, so that questions about a number (its shortest decimal, the remainder of a
division) are answered in exact arithmetic. `remainder` is the remainder of a division whose
quotient is cut toward zero.
-/

namespace Slumber.Decimal

/-- A finite number `± mantissa * 2 ^ exponent`. -/
structure Binary where
  negative : Bool
  mantissa : Nat
  exponent : Int
deriving DecidableEq, Repr

/-- What the bits of a floating-point number stand for. -/
inductive FloatClass where
  | nan
  | infinite (negative : Bool)
  | finite (b : Binary)
deriving DecidableEq, Repr

/-- The leading digit of a mantissa of full width, `2 ^ 52`: it is understood, not stored. -/
def hiddenBit : Nat := 0x10000000000000

/-- The class and exact value of `x`. -/
def classify (x : Float) : FloatClass :=
  let n := x.toBits.toNat
  let negative := decide (0x8000000000000000 ≤ n)
  let e : Nat := n / hiddenBit % 2048
  let f : Nat := n % hiddenBit
  if e = 2047 then if f = 0 then .infinite negative else .nan
  else if e = 0 then .finite ⟨negative, f, -1074⟩
  else .finite ⟨negative, f + hiddenBit, (e : Int) - 1075⟩

/-- The number `± m * 2 ^ q`, where `m` is below `2 ^ 53`: both steps are exact unless the result
is too small for a full mantissa. -/
def Binary.toFloat (b : Binary) : Float :=
  let x := Float.scaleB (Float.ofNat b.mantissa) b.exponent
  if b.negative then -x else x

/-- The remainder of `x` by `y` with the sign of `x`: `x - n * y` for the quotient `n` cut toward
zero. An infinite `x` and a zero `y` have none; an infinite `y` leaves `x`. -/
def remainder (x y : Float) : Float :=
  match classify x, classify y with
  | .nan, _ | _, .nan | .infinite _, _ => 0.0 / 0.0
  | .finite _, .infinite _ => x
  | .finite a, .finite b =>
    if b.mantissa = 0 then 0.0 / 0.0
    else
      let q := min a.exponent b.exponent
      let m := a.mantissa * Nat.pow 2 (a.exponent - q).toNat
      let n := b.mantissa * Nat.pow 2 (b.exponent - q).toNat
      Binary.toFloat ⟨a.negative, m % n, q⟩

end Slumber.Decimal
