import Slumber.Pattern.CharSet

/-!
# Flags of patterns

`Flags` are the settings under which a part of a pattern is read. Under the flag `x` white space and
comments between the parts of a pattern are ignored; `skip` passes over them, and `spelled` reads
characters of one class between which they may stand. Without the flag `u` only ASCII counts, and
sets that reach beyond it are refused.
-/

namespace Slumber.Pattern

open Slumber.Text

/-- The flags that a pattern can set. -/
structure Flags where
  anyCase : Bool := false
  manyLines : Bool := false
  dotAll : Bool := false
  crlf : Bool := false
  verbose : Bool := false
  ascii : Bool := false

namespace Flags

/-- Sets or clears one flag. -/
def set? (f : Flags) (on : Bool) : Char → Option Flags
  | 'i' => some { f with anyCase := on }
  | 'm' => some { f with manyLines := on }
  | 's' => some { f with dotAll := on }
  | 'R' => some { f with crlf := on }
  | 'x' => some { f with verbose := on }
  | 'u' => some { f with ascii := !on }
  | 'U' => some f
  | _ => none

/-- A set of characters, with all variants in case where case is ignored. Where only ASCII counts,
these are the variants within ASCII. -/
def apply (f : Flags) (set : CharSet) : CharSet :=
  let ascii : CharSet := .range 0 0x7F
  if !f.anyCase then set
  else if f.ascii then .union set (.inter ascii (.anyCase (.inter ascii set)))
  else .anyCase set

/-- A set or, if `negated`, its complement, which is refused where only ASCII counts. -/
def negate? (f : Flags) (negated : Bool) (set : CharSet) : Option CharSet :=
  if negated && f.ascii then none else some (set.negate negated)

/-- What any character stands for: all but the end of a line, unless that counts too. -/
def anyChar? (f : Flags) : Option CharSet :=
  let excluded : CharSet :=
    if f.dotAll then .none
    else if f.crlf then .union (.single '\n') (.single '\r')
    else .single '\n'
  f.negate? true excluded

end Flags

/-- Skips what a verbose pattern ignores: white space, and comments up to the end of the line. -/
def skipIgnored (verbose : Bool) : Nat → List Char → List Char
  | 0, cs => cs
  | fuel + 1, cs =>
    if !verbose then cs
    else
      match cs with
      | [] => []
      | c :: rest =>
        if isBlank c then skipIgnored verbose fuel rest
        else if c = '#' then skipIgnored verbose fuel (rest.dropWhile (· ≠ '\n'))
        else cs

/-- What is to be ignored in front of `cs`, skipped. -/
def skip (f : Flags) (cs : List Char) : List Char :=
  skipIgnored f.verbose (cs.length + 1) cs

/-- The characters in front that satisfy `p`, at most `most` of them, where what is to be ignored
may stand behind each. -/
def spelled (f : Flags) (p : Char → Bool) : (most : Nat) → List Char → List Char × List Char
  | 0, cs => ([], cs)
  | _, [] => ([], [])
  | most + 1, c :: cs =>
    if p c then
      let (word, rest) := spelled f p most (skip f cs)
      (c :: word, rest)
    else ([], c :: cs)

end Slumber.Pattern
