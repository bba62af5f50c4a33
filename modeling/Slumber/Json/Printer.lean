import Slumber.Decimal.Shortest
import Slumber.Json.Basic
import Slumber.Text.CodePoints

/-!
# The compact text of a document

`Json.render` writes a document on one line without blanks. Strings escape the quote, the backslash
and the characters below the space; floating-point numbers are written in their shortest form and
always show that they are floating-point numbers.
-/

namespace Slumber.Json

open Slumber.Text

/-- One character of a string. -/
def escapeChar (c : Char) : List Char :=
  if c = '"' then ['\\', '"']
  else if c = '\\' then ['\\', '\\']
  else if c = '\n' then ['\\', 'n']
  else if c = '\r' then ['\\', 'r']
  else if c = '\t' then ['\\', 't']
  else if c = '\x08' then ['\\', 'b']
  else if c = '\x0c' then ['\\', 'f']
  else if c.toNat < 32 then
    ['\\', 'u', '0', '0', Nat.digitChar (c.toNat / 16), Nat.digitChar (c.toNat % 16)]
  else [c]

/-- The text of a string with its quotation marks. -/
def renderString (s : String) : String :=
  String.ofList (['"'] ++ s.toList.flatMap escapeChar ++ ['"'])

/-- The text of a floating-point number; what is not finite has no number text. -/
def renderFloat (x : Float) : String :=
  if x.isFinite then Decimal.floatText .document x else "null"

mutual

/-- The compact text of a document. -/
def render : Json → String
  | .null => "null"
  | .bool b => if b then "true" else "false"
  | .int i => toString i
  | .float x => renderFloat x
  | .str s => renderString s
  | .arr xs => "[" ++ renderElements true xs ++ "]"
  | .obj fields => "\x7b" ++ renderFields true fields ++ "\x7d"

/-- The elements of an array, with a comma before each but the first. -/
def renderElements (first : Bool) : List Json → String
  | [] => ""
  | x :: xs => (if first then "" else ",") ++ render x ++ renderElements false xs

/-- The fields of an object, with a comma before each but the first. -/
def renderFields (first : Bool) : List (String × Json) → String
  | [] => ""
  | (k, x) :: xs =>
    (if first then "" else ",") ++ renderString k ++ ":" ++ render x ++ renderFields false xs

end

end Slumber.Json
