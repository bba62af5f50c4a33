import Slumber.Text.Letters

/-!
# Whole numbers in decimal

`readWhole` reads an optional sign and decimal digits as a number between two limits. Reading goes
from left to right and stops at the first fault, so a text with two faults shows the first one: a
character that is no digit, or the digit at which the number leaves its limits. Unsigned numbers
take a plus sign but no minus sign.
-/

namespace Slumber.Decimal

open Slumber.Text

/-- Why a text is no whole number within the limits. -/
inductive WholeError where
  | empty
  | invalidDigit
  | tooLarge
  | tooSmall
deriving DecidableEq, Repr

/-- The wording of each fault. -/
def WholeError.message : WholeError → String
  | .empty => "cannot parse integer from empty string"
  | .invalidDigit => "invalid digit found in string"
  | .tooLarge => "number too large to fit in target type"
  | .tooSmall => "number too small to fit in target type"

/-- The value of a decimal digit. -/
def digitValue? (c : Char) : Option Nat :=
  if isAsciiDigit c then some (c.toNat - 48) else none

/-- Appends digits to `n`, refusing a result above `limit`. -/
def readDigits (limit : Nat) : Nat → List Char → Except WholeError Nat
  | n, [] => .ok n
  | n, c :: cs =>
    match digitValue? c with
    | none => .error .invalidDigit
    | some d => if n * 10 + d ≤ limit then readDigits limit (n * 10 + d) cs else .error .tooLarge

/-- Reads a number from 0 to `limit`; a plus sign may stand in front. -/
def readUnsigned (limit : Nat) : List Char → Except WholeError Nat
  | [] => .error .empty
  | ['+'] => .error .invalidDigit
  | '+' :: cs => readDigits limit 0 cs
  | cs => readDigits limit 0 cs

/-- Reads a number from `-(limit + 1)` to `limit`; a sign may stand in front. -/
def readSigned (limit : Nat) : List Char → Except WholeError Int
  | [] => .error .empty
  | ['-'] => .error .invalidDigit
  | '-' :: cs =>
    match readDigits (limit + 1) 0 cs with
    | .ok n => .ok (-(n : Int))
    | .error .tooLarge => .error .tooSmall
    | .error e => .error e
  | cs => (readUnsigned limit cs).map Int.ofNat

/-- The greatest number of 64 bits. -/
def maxUnsigned64 : Nat := 0xFFFFFFFFFFFFFFFF

/-- The greatest signed number of 64 bits. -/
def maxSigned64 : Nat := 0x7FFFFFFFFFFFFFFF

/-- The greatest signed number of 32 bits. -/
def maxSigned32 : Nat := 0x7FFFFFFF

/-- `i` brought into the range of signed numbers of 32 bits by clamping. -/
def clamp32 (i : Int) : Int :=
  max (-0x80000000) (min 0x7FFFFFFF i)

/-- The number that plain decimal digits write; at least one digit is needed. -/
def digits? (cs : List Char) : Option Nat :=
  match cs with
  | [] => none
  | cs => cs.foldl (fun acc c => do return (← acc) * 10 + (← digitValue? c)) (some 0)

/-- The decimal text of a natural number, filled up with zeros to `width` digits. -/
def padded (width n : Nat) : String :=
  let ds := Nat.toDigits 10 n
  String.ofList (List.replicate (width - ds.length) '0' ++ ds)

end Slumber.Decimal
