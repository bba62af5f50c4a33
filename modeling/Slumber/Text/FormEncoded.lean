import Slumber.Text.Letters

/-!
# Form encoding

In the query of a request a value is written byte by byte in the encoding of forms: ASCII letters,
digits and the four marks `*`, `-`, `.` and `_` stand for themselves, a blank becomes a plus sign,
and any other byte becomes a percent sign with two hexadecimal digits in upper case.
-/

namespace Slumber.Text

/-- Whether `c` stands for itself in a form. -/
def isPlainInForm (c : Char) : Bool :=
  isAsciiLetter c || isAsciiDigit c || c ∈ ['*', '-', '.', '_']

/-- A byte as a percent sign and two hexadecimal digits. -/
def percentEncoded (byte : Nat) : List Char :=
  let digit (n : Nat) := ((hexDigits[n]?).getD '0').toUpper
  ['%', digit (byte / 16), digit (byte % 16)]

/-- One character in the encoding of forms. -/
def formEncodedChar (c : Char) : List Char :=
  if isPlainInForm c then [c]
  else if c = ' ' then ['+']
  else (String.utf8EncodeChar c).flatMap fun b => percentEncoded b.toNat

/-- A text in the encoding of forms. -/
def formEncoded (s : String) : String :=
  String.ofList (s.toList.flatMap formEncodedChar)

end Slumber.Text
