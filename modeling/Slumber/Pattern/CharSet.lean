import Slumber.Pattern.CaseFolding
import Slumber.Pattern.Categories
import Slumber.Text.Blank
import Slumber.Text.Letters

/-!
# Sets of characters in patterns

A `CharSet` is what a pattern writes for a single character: ranges, the classes `\d`, `\s`, `\w`,
general categories and scripts, the named ASCII classes, and their unions, differences,
intersections and complements. `CharSet.contains` decides membership. Where a pattern ignores case,
a set is taken together with all characters that differ from its members in case only.
-/

namespace Slumber.Pattern

open Slumber.Text

/-- A set of characters. -/
inductive CharSet where
  | none
  | range (first last : Nat)
  | digit
  | space
  | word
  | table (points : CodePoints)
  | union (a b : CharSet)
  | inter (a b : CharSet)
  | compl (a : CharSet)
  | anyCase (a : CharSet)

/-- Whether `c` is a word character: a letter, mark, decimal digit, connector or joiner. -/
def isWord (c : Char) : Bool :=
  if c.toNat < 128 then isAsciiLetter c || isAsciiDigit c || c == '_'
  else isAlphabetic c || categoryMn.contains c || categoryMc.contains c || categoryMe.contains c
    || categoryNd.contains c || categoryPc.contains c || c == '\u200c' || c == '\u200d'

/-- Whether `c` is a word character of ASCII. -/
def isAsciiWord (c : Char) : Bool :=
  isAsciiLetter c || isAsciiDigit c || c == '_'

namespace CharSet

/-- Whether the set holds `c`. -/
def contains : CharSet → Char → Bool
  | .none, _ => false
  | .range first last, c => first ≤ c.toNat && c.toNat ≤ last
  | .digit, c => categoryNd.contains c
  | .space, c => isBlank c
  | .word, c => isWord c
  | .table points, c => points.contains c
  | .union a b, c => a.contains c || b.contains c
  | .inter a b, c => a.contains c && b.contains c
  | .compl a, c => !a.contains c
  | .anyCase a, c => (caseVariants c).any a.contains

/-- The set of one character. -/
def single (c : Char) : CharSet :=
  .range c.toNat c.toNat

/-- The union of sets. -/
def unions (sets : List CharSet) : CharSet :=
  sets.foldl .union .none

/-- The members of `a` that are not in `b`. -/
def difference (a b : CharSet) : CharSet :=
  .inter a (.compl b)

/-- The set or, if `negated`, its complement. -/
def negate (negated : Bool) (a : CharSet) : CharSet :=
  if negated then .compl a else a

/-- A union of ranges given by their first and last characters. -/
def ofRanges (pairs : List (Char × Char)) : CharSet :=
  unions (pairs.map fun (a, b) => .range a.toNat b.toNat)

/-- The ASCII digits. -/
def asciiDigit : CharSet := ofRanges [('0', '9')]

/-- The ASCII white space. -/
def asciiSpace : CharSet := ofRanges [('\t', '\r'), (' ', ' ')]

/-- The ASCII word characters. -/
def asciiWord : CharSet := ofRanges [('0', '9'), ('A', 'Z'), ('_', '_'), ('a', 'z')]

/-- The named ASCII class that stands between `[:` and `:]`. -/
def named? : String → Option CharSet
  | "alnum" => some (ofRanges [('0', '9'), ('A', 'Z'), ('a', 'z')])
  | "alpha" => some (ofRanges [('A', 'Z'), ('a', 'z')])
  | "ascii" => some (.range 0 0x7F)
  | "blank" => some (ofRanges [('\t', '\t'), (' ', ' ')])
  | "cntrl" => some (.union (.range 0 0x1F) (.range 0x7F 0x7F))
  | "digit" => some asciiDigit
  | "graph" => some (ofRanges [('!', '~')])
  | "lower" => some (ofRanges [('a', 'z')])
  | "print" => some (ofRanges [(' ', '~')])
  | "punct" => some (ofRanges [('!', '/'), (':', '@'), ('[', '\x60'), ('\x7b', '~')])
  | "space" => some asciiSpace
  | "upper" => some (ofRanges [('A', 'Z')])
  | "word" => some asciiWord
  | "xdigit" => some (ofRanges [('0', '9'), ('A', 'F'), ('a', 'f')])
  | _ => Option.none

end CharSet

end Slumber.Pattern
