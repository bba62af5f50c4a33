import Slumber.Pattern.Flags
import Slumber.Pattern.Property
import Slumber.Pattern.Tree

/-!
# Escapes in patterns

What stands behind a backslash is a single character, a set of characters or an assertion. The marks
with a meaning of their own stand for themselves behind a backslash, and so does every other
character of ASCII that is no letter, digit or angle bracket. `readEscape?` reads an escape.
-/

namespace Slumber.Pattern

open Slumber.Text

/-- What stands behind a backslash. -/
inductive Escaped where
  | char (c : Char)
  | set (s : CharSet)
  | assertion (a : Assertion)

/-- The characters that stand for themselves behind a backslash. -/
def isEscapable (c : Char) : Bool :=
  c.toNat < 128 && !isAsciiLetter c && !isAsciiDigit c && c ≠ '<' && c ≠ '>'

/-- Whether `c` is a hexadecimal digit. -/
def isHexDigit (c : Char) : Bool :=
  (hexDigit? c).isSome

/-- The character whose code point a list of hexadecimal digits writes. -/
def hexChar? (ds : List Char) : Option Char := do
  if ds.isEmpty then none
  let n ← ds.foldl (fun acc d => do return (← acc) * 16 + (← hexDigit? d)) (some 0)
  if n < 0xD800 ∨ (0xDFFF < n ∧ n < 0x110000) then some (Char.ofNat n) else none

/-- A character by its code point: `digits` hexadecimal digits, or any number in braces. -/
def readCodePoint? (f : Flags) (digits : Nat) (cs : List Char) : Option (Escaped × List Char) :=
  match skip f cs with
  | '\x7b' :: cs =>
    match spelled f isHexDigit cs.length (skip f cs) with
    | (ds, '\x7d' :: cs) => (hexChar? ds).map fun c => (.char c, skip f cs)
    | _ => none
  | cs =>
    let (ds, rest) := spelled f isHexDigit digits cs
    if ds.length < digits then none
    else
      (hexChar? ds).bind fun c =>
        if f.ascii ∧ digits = 2 ∧ 128 ≤ c.toNat then none else some (.char c, rest)

/-- A property by a single letter or by a name in braces. -/
def readProperty? (f : Flags) (negated : Bool) (cs : List Char) : Option (Escaped × List Char) :=
  let found (name rest : List Char) : Option (Escaped × List Char) :=
    if f.ascii then none
    else (CharSet.property? name).map fun s => (.set ((f.apply s).negate negated), rest)
  match skip f cs with
  | '\x7b' :: cs =>
    match spelled f (· ≠ '\x7d') cs.length (skip f cs) with
    | (name, '\x7d' :: rest) => found name rest
    | _ => none
  | c :: rest => found [c] (skip f rest)
  | [] => none

/-- The assertions on the edges of words that have names. -/
def namedEdge? (ascii : Bool) : String → Option Assertion
  | "start" => some (.wordStart ascii)
  | "end" => some (.wordEnd ascii)
  | "start-half" => some (.wordStartHalf ascii)
  | "end-half" => some (.wordEndHalf ascii)
  | _ => none

/-- The edge of a word, with its name in braces if it has one. Braces that start with neither a
letter nor a dash are the bounds of a repetition. -/
def readEdge? (f : Flags) (cs : List Char) : Option (Escaped × List Char) :=
  let inName (c : Char) : Bool := isAsciiLetter c || c == '-'
  match cs with
  | '\x7b' :: inner =>
    match spelled f inName inner.length (skip f inner) with
    | ([], []) => none
    | ([], _) => some (.assertion (.wordEdge f.ascii), cs)
    | (name, '\x7d' :: rest) =>
      (namedEdge? f.ascii (String.ofList name)).map fun a => (.assertion a, rest)
    | _ => none
  | cs => some (.assertion (.wordEdge f.ascii), cs)

/-- Reads what stands behind a backslash. -/
def readEscape? (f : Flags) : List Char → Option (Escaped × List Char)
  | [] => none
  | c :: cs =>
    let set (negated : Bool) (ascii unicode : CharSet) : Option (Escaped × List Char) :=
      (f.negate? negated (if f.ascii then ascii else unicode)).map fun s => (.set s, cs)
    match c with
    | 'd' => set false .asciiDigit .digit
    | 'D' => set true .asciiDigit .digit
    | 's' => set false .asciiSpace .space
    | 'S' => set true .asciiSpace .space
    | 'w' => set false .asciiWord .word
    | 'W' => set true .asciiWord .word
    | 'a' => some (.char '\x07', cs)
    | 'f' => some (.char '\x0c', cs)
    | 't' => some (.char '\t', cs)
    | 'n' => some (.char '\n', cs)
    | 'r' => some (.char '\r', cs)
    | 'v' => some (.char '\x0b', cs)
    | 'x' => readCodePoint? f 2 cs
    | 'u' => readCodePoint? f 4 cs
    | 'U' => readCodePoint? f 8 cs
    | 'p' => readProperty? f false cs
    | 'P' => readProperty? f true cs
    | 'A' => some (.assertion .textStart, cs)
    | 'z' => some (.assertion .textEnd, cs)
    | 'B' => some (.assertion (.notWordEdge f.ascii), cs)
    | '<' => some (.assertion (.wordStart f.ascii), cs)
    | '>' => some (.assertion (.wordEnd f.ascii), cs)
    | 'b' => readEdge? f cs
    | c => if isEscapable c then some (.char c, cs) else none

end Slumber.Pattern
