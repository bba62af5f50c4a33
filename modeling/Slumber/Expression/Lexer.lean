import Slumber.Decimal.Reading
import Slumber.Expression.Fault
import Slumber.Text.Letters
import Slumber.Text.Words

/-!
# From characters to tokens

`Token.scan` splits a text into tokens, skipping white space between them. A number takes digits,
points that have a digit behind them, and an exponent if digits follow it; a name starts with a
letter, `_` or `$`; a string stands between two quotes of one kind and a backslash takes the next
character as it is, except for `\n` and `\t`. Of the marks the first of `Mark.table` that fits is
taken. Every step uses up at least one character.
-/

namespace Slumber.Expression

open Slumber.Text Slumber.Decimal

/-- The digits and points of a number in front, and the rest. -/
def spanNumber : List Char → List Char × List Char
  | [] => ([], [])
  | c :: cs =>
    if isAsciiDigit c ∨ (c = '.' ∧ (cs.head?.map isAsciiDigit).getD false) then
      let (ds, rest) := spanNumber cs
      (c :: ds, rest)
    else ([], c :: cs)

/-- The exponent in front, if digits follow its letter and sign, and the rest. -/
def spanExponent (cs : List Char) : List Char × List Char :=
  match cs with
  | [] => ([], [])
  | e :: r =>
    if e = 'e' ∨ e = 'E' then
      let (sign, digits) : List Char × List Char :=
        match r with
        | c :: ds => if c = '+' ∨ c = '-' then ([c], ds) else ([], r)
        | [] => ([], [])
      let (ds, rest) := spanDigits digits
      if ds.isEmpty then ([], cs) else (e :: sign ++ ds, rest)
    else ([], cs)

/-- Whether a name may start with `c`. -/
def startsName (c : Char) : Bool :=
  isAlphabetic c || c == '_' || c == '$'

/-- Whether a name may go on with `c`. -/
def continuesName (c : Char) : Bool :=
  isAlphanumeric c || c == '_' || c == '$'

/-- The content of a string up to its closing quote, and the rest. -/
def spanString (quote : Char) : List Char → Option (List Char × List Char)
  | [] => none
  | '\\' :: [] => none
  | '\\' :: c :: cs =>
    let c := if c = 'n' then '\n' else if c = 't' then '\t' else c
    (spanString quote cs).map fun (s, rest) => (c :: s, rest)
  | c :: cs =>
    if c = quote then some ([], cs)
    else (spanString quote cs).map fun (s, rest) => (c :: s, rest)

/-- The mark in front, and the rest. -/
def spanMark? (cs : List Char) : Option (Mark × List Char) :=
  Mark.table.findSome? fun m => (dropToken? m.text.toList cs).map fun rest => (m, rest)

/-- The token that starts with `c`, which is not white space, and the rest. -/
def scanToken (c : Char) (cs : List Char) : Except ParseFault (Token × List Char) :=
  if isAsciiDigit c then
    let (whole, rest) := spanNumber (c :: cs)
    let (exponent, rest) := spanExponent rest
    let text := whole ++ exponent
    match readFloat? text with
    | some x => .ok (.number x, rest)
    | none => .error (.invalidNumber (String.ofList text))
  else if startsName c then
    .ok (.name (String.ofList (c :: cs.takeWhile continuesName)), cs.dropWhile continuesName)
  else if c = '\'' ∨ c = '"' then
    match spanString c cs with
    | some (s, rest) => .ok (.string (String.ofList s), rest)
    | none => .error .unterminatedString
  else
    match spanMark? (c :: cs) with
    | some (m, rest) => .ok (.mark m, rest)
    | none => .error (.unexpectedCharacter c)

/-- The tokens of a list of characters that is not longer than `fuel`. -/
def scanTokens : Nat → List Char → Except ParseFault (List Token)
  | 0, _ | _, [] => .ok []
  | fuel + 1, c :: cs =>
    if isBlank c then scanTokens fuel cs
    else
      match scanToken c cs with
      | .error e => .error e
      | .ok (t, rest) =>
        match scanTokens fuel rest with
        | .error e => .error e
        | .ok ts => .ok (t :: ts)

/-- The tokens of a text. -/
def Token.scan (source : String) : Except ParseFault (List Token) :=
  scanTokens source.length source.toList

end Slumber.Expression
