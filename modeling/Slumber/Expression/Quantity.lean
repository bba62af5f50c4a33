import Slumber.Decimal.Reading
import Slumber.Expression.Fault
import Slumber.Text.Blank

/-!
# Quantities of resources

A quantity is a number with an optional suffix for a power of ten or of 1024: `250m`, `64Mi`,
`1e3k`. `Quantity.read?` gives its value as a floating-point number, the product of the number and
the value of the suffix. An exponent is part of the number if digits follow it, so `1E` is a suffix
and `1E3` an exponent.
-/

namespace Slumber.Expression

namespace Quantity

open Slumber.Text Slumber.Decimal

/-- The value of a suffix. -/
def factor? (suffix : String) : Option Float :=
  match suffix with
  | "" => some 1.0
  | "m" => some 1e-3
  | "k" | "K" => some 1e3
  | "Ki" => some 1024.0
  | "M" => some 1e6
  | "Mi" => some 1048576.0
  | "G" => some 1e9
  | "Gi" => some 1073741824.0
  | "T" => some 1e12
  | "Ti" => some 1099511627776.0
  | "P" => some 1e15
  | "Pi" => some 1125899906842624.0
  | "E" => some 1e18
  | "Ei" => some 1152921504606846976.0
  | _ => none

/-- Splits a list into a sign, digits with points, and the rest. -/
def spanNumber (cs : List Char) : List Char × List Char :=
  let (sign, body) :=
    match cs with
    | c :: r => if c = '+' ∨ c = '-' then ([c], r) else ([], cs)
    | [] => ([], [])
  let isPart (c : Char) : Bool := isAsciiDigit c || c == '.'
  let digits := body.takeWhile isPart
  if digits.isEmpty then ([], cs) else (sign ++ digits, body.dropWhile isPart)

/-- Splits off an exponent with at least one digit. -/
def spanExponent (cs : List Char) : List Char × List Char :=
  match cs with
  | e :: r =>
    if e = 'e' ∨ e = 'E' then
      let (sign, body) :=
        match r with
        | c :: r' => if c = '+' ∨ c = '-' then ([c], r') else ([], r)
        | [] => ([], [])
      let (digits, rest) := spanDigits body
      if digits.isEmpty then ([], cs) else (e :: sign ++ digits, rest)
    else ([], cs)
  | [] => ([], [])

/-- The value of a quantity. -/
def read? (text : String) : Option Float := do
  let (number, rest) := spanNumber (trimChars text.toList)
  if number.isEmpty then none
  let (exponent, suffix) := spanExponent rest
  let factor ← factor? (String.ofList suffix)
  let x ← readFloat? (number ++ exponent)
  return x * factor

/-- The value of a quantity, or the error that names it. -/
def read (text : String) : Except ExpressionError Float :=
  match read? text with
  | some x => .ok x
  | none => .error (.invalidQuantity text)

/-- Whether two quantities have the same value, up to the last bits of a floating-point number. Two
texts of which one is no quantity are the same if they agree without surrounding blanks. -/
def same (a b : String) : Bool :=
  match read? a, read? b with
  | some x, some y =>
    let largest := max (max x.abs y.abs) 1.0
    (x - y).abs ≤ 2.220446049250313e-16 * largest
  | _, _ => trim a == trim b
where
  /-- The greater of two numbers; of a number and what is not a number, the number. -/
  max (x y : Float) : Float :=
    if x.isNaN then y else if y.isNaN then x else if x < y then y else x

end Quantity

end Slumber.Expression
