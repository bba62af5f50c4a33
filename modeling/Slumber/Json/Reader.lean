import Slumber.Decimal.Reading
import Slumber.Json.Basic
import Slumber.Text.CodePoints

/-!
# Reading a document from its text

`Json.read?` reads a JSON text: one value between blanks, nested at most 127 deep. A number without
point and exponent that fits 64 bits is a whole number. Any other number is read through the digits
before and behind the point that fit 64 bits, scaled by a power of ten. Of two fields with one name
the later one counts.
-/

namespace Slumber.Json

open Slumber.Text Slumber.Decimal

/-- The four characters that may stand between the parts of a document. -/
def isGap (c : Char) : Bool :=
  c == ' ' || c == '\n' || c == '\r' || c == '\t'

/-- Skips what may stand between the parts of a document. -/
def skipGap (cs : List Char) : List Char :=
  cs.dropWhile isGap

/-- Four hexadecimal digits and the rest. -/
def readUnit? : List Char → Option (Nat × List Char)
  | a :: b :: c :: d :: cs => do
    let w ← hexDigit? a
    let x ← hexDigit? b
    let y ← hexDigit? c
    let z ← hexDigit? d
    return (((w * 16 + x) * 16 + y) * 16 + z, cs)
  | _ => none

/-- What stands behind a backslash, and the rest. A character beyond the first plane is written by
two units. -/
def readEscape? : List Char → Option (Char × List Char)
  | '"' :: cs => some ('"', cs)
  | '\\' :: cs => some ('\\', cs)
  | '/' :: cs => some ('/', cs)
  | 'b' :: cs => some ('\x08', cs)
  | 'f' :: cs => some ('\x0c', cs)
  | 'n' :: cs => some ('\n', cs)
  | 'r' :: cs => some ('\r', cs)
  | 't' :: cs => some ('\t', cs)
  | 'u' :: cs => do
    let (u, cs) ← readUnit? cs
    if 0xDC00 ≤ u ∧ u ≤ 0xDFFF then none
    else if 0xD800 ≤ u ∧ u ≤ 0xDBFF then
      match cs with
      | '\\' :: 'u' :: cs => do
        let (v, cs) ← readUnit? cs
        if 0xDC00 ≤ v ∧ v ≤ 0xDFFF then
          some (Char.ofNat (0x10000 + (u - 0xD800) * 0x400 + (v - 0xDC00)), cs)
        else none
      | _ => none
    else some (Char.ofNat u, cs)
  | _ => none

/-- The characters of a string up to its closing quote, and the rest. -/
def readChars? : Nat → List Char → List Char → Option (List Char × List Char)
  | 0, _, _ => none
  | fuel + 1, done, cs =>
    match cs with
    | '"' :: cs => some (done.reverse, cs)
    | '\\' :: cs =>
      match readEscape? cs with
      | some (c, cs) => readChars? fuel (c :: done) cs
      | none => none
    | c :: cs => if c.toNat < 32 then none else readChars? fuel (c :: done) cs
    | [] => none

/-- Takes digits as long as the number fits 64 bits: the number, how many digits were taken, and
what stands behind them. -/
def takeDigits (n taken : Nat) : List Char → Nat × Nat × List Char
  | [] => (n, taken, [])
  | c :: cs =>
    match digitValue? c with
    | some d =>
      if n * 10 + d ≤ maxUnsigned64 then takeDigits (n * 10 + d) (taken + 1) cs
      else (n, taken, c :: cs)
    | none => (n, taken, c :: cs)

/-- `n` scaled by ten to the power `e`, through one power of ten of at most `1e308`. A result too
large for a number is none. -/
def scaleFloat? (n : Nat) (e : Int) : Option Float :=
  let x := Float.ofNat n
  let result (y : Float) : Option Float := if y.isFinite then some y else none
  if x == 0.0 then some 0.0
  else if 308 < e then none
  else if 0 ≤ e then result (x * nearestFloat 1 e)
  else if -308 ≤ e then result (x / nearestFloat 1 (-e))
  else if -616 ≤ e then result (x / nearestFloat 1 308 / nearestFloat 1 (-e - 308))
  else some 0.0

/-- The exponent behind an `e`, and the rest. -/
def readPower? (cs : List Char) : Option (Int × List Char) :=
  let digits (cs : List Char) (f : Int → Int) : Option (Int × List Char) :=
    let (ds, rest) := spanDigits cs
    if ds.isEmpty then none else some (f (digitsValue ds), rest)
  match cs with
  | '-' :: cs => digits cs fun e => -e
  | '+' :: cs => digits cs id
  | cs => digits cs id

/-- A number without its sign, and the rest. -/
def readNumber? (negative : Bool) (cs : List Char) : Option (Json × List Char) :=
  let signed (x : Float) : Json := .float (if negative then -x else x)
  let (whole, _) := spanDigits cs
  if whole.isEmpty then none
  else if whole.head? = some '0' ∧ 1 < whole.length then none
  else
    let (n, _, rest) := takeDigits 0 0 cs
    let (dropped, rest) := spanDigits rest
    let long := !dropped.isEmpty
    let scale : Int := dropped.length
    let behindPower (n : Nat) (e : Int) (rest : List Char) : Option (Json × List Char) :=
      match rest with
      | c :: r =>
        if c = 'e' ∨ c = 'E' then do
          let (p, r) ← readPower? r
          let x ← scaleFloat? n (e + p)
          return (signed x, r)
        else do
          let x ← scaleFloat? n e
          return (signed x, rest)
      | [] => do
        let x ← scaleFloat? n e
        return (signed x, rest)
    match rest with
    | '.' :: r =>
      let (fraction, _) := spanDigits r
      if fraction.isEmpty then none
      else
        let (n, taken, r) := takeDigits n 0 r
        let (_, r) := spanDigits r
        behindPower n (scale - taken) r
    | c :: _ =>
      if c = 'e' ∨ c = 'E' ∨ long then behindPower n scale rest
      else if !negative then some (.int n, rest)
      else if n ≠ 0 ∧ n ≤ 0x8000000000000000 then some (.int (-(n : Int)), rest)
      else some (signed (Float.ofNat n), rest)
    | [] =>
      if long then behindPower n scale rest
      else if !negative then some (.int n, rest)
      else if n ≠ 0 ∧ n ≤ 0x8000000000000000 then some (.int (-(n : Int)), rest)
      else some (signed (Float.ofNat n), rest)

mutual

/-- Reads one value; `depth` bounds the nesting and `fuel` the length of what is read. -/
def readValue? : Nat → Nat → List Char → Option (Json × List Char)
  | 0, _, _ => none
  | fuel + 1, depth, cs =>
    match cs with
    | 'n' :: 'u' :: 'l' :: 'l' :: cs => some (.null, cs)
    | 't' :: 'r' :: 'u' :: 'e' :: cs => some (.bool true, cs)
    | 'f' :: 'a' :: 'l' :: 's' :: 'e' :: cs => some (.bool false, cs)
    | '"' :: cs =>
      (readChars? (cs.length + 1) [] cs).map fun (s, cs) => (.str (String.ofList s), cs)
    | '-' :: cs => readNumber? true cs
    | '[' :: cs =>
      if depth ≤ 1 then none
      else
        match skipGap cs with
        | ']' :: cs => some (.arr [], cs)
        | cs => readElements? fuel (depth - 1) [] cs
    | '\x7b' :: cs =>
      if depth ≤ 1 then none
      else
        match skipGap cs with
        | '\x7d' :: cs => some (.obj [], cs)
        | cs => readFields? fuel (depth - 1) [] cs
    | cs => readNumber? false cs

/-- Reads the elements of an array up to its closing bracket. -/
def readElements? : Nat → Nat → List Json → List Char → Option (Json × List Char)
  | 0, _, _, _ => none
  | fuel + 1, depth, done, cs =>
    match readValue? fuel depth (skipGap cs) with
    | none => none
    | some (x, cs) =>
      match skipGap cs with
      | ',' :: cs => readElements? fuel depth (x :: done) cs
      | ']' :: cs => some (.arr (x :: done).reverse, cs)
      | _ => none

/-- Reads the fields of an object up to its closing brace. -/
def readFields? : Nat → Nat → FiniteMap String Json → List Char → Option (Json × List Char)
  | 0, _, _, _ => none
  | fuel + 1, depth, done, cs =>
    match skipGap cs with
    | '"' :: cs =>
      match readChars? (cs.length + 1) [] cs with
      | none => none
      | some (key, cs) =>
        match skipGap cs with
        | ':' :: cs =>
          match readValue? fuel depth (skipGap cs) with
          | none => none
          | some (x, cs) =>
            let done := done.insert (String.ofList key) x
            match skipGap cs with
            | ',' :: cs => readFields? fuel depth done cs
            | '\x7d' :: cs => some (.obj done, cs)
            | _ => none
        | _ => none
    | _ => none

end

/-- The document that a text writes. -/
def read? (text : String) : Option Json :=
  let cs := skipGap text.toList
  match readValue? (2 * cs.length + 2) 128 cs with
  | some (x, rest) => if (skipGap rest).isEmpty then some x else none
  | none => none

end Slumber.Json
