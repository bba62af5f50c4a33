import Slumber.Decimal.Whole
import Slumber.Text.Words

/-!
# The rank of interface versions

Servers name the versions of an interface `v1`, `v2beta1` or `v1alpha3`. A stable version ranks
above every beta version and those above every alpha version; within a level the greater number
wins, and then the greater second number, where none is less than any. A name of another form ranks
below all of them, and of two such names the one that comes first in the alphabet ranks higher.
`Version.isBelow` is this order, and `Version.latest?` the first version of the highest rank.
-/

namespace Slumber

/-- How settled a version is. -/
inductive VersionLevel where
  | other | alpha | beta | stable
deriving DecidableEq, Repr

/-- The place of a level, the most settled one last. -/
def VersionLevel.place : VersionLevel → Nat
  | .other => 0
  | .alpha => 1
  | .beta => 2
  | .stable => 3

/-- What the rank of a version depends on. `name` counts only for versions of another form. -/
structure Version where
  level : VersionLevel
  first : Nat := 0
  second : Option Nat := none
  name : String := ""
deriving DecidableEq, Repr

namespace Version

open Text Decimal

/-- A number of 32 bits. -/
def number? (cs : List Char) : Option Nat :=
  (readUnsigned 0xFFFFFFFF cs).toOption

/-- The level and the second number that stand behind the first number. -/
def readLevel? (cs : List Char) : Option (VersionLevel × Option Nat) :=
  let second (level : VersionLevel) (rest : List Char) : Option (VersionLevel × Option Nat) :=
    if rest.isEmpty then some (level, none) else (number? rest).map fun n => (level, some n)
  if cs.isEmpty then some (.stable, none)
  else
    match dropToken? "alpha".toList cs, dropToken? "beta".toList cs with
    | some rest, _ => second .alpha rest
    | none, some rest => second .beta rest
    | none, none => none

/-- Reads the usual form of a version. -/
def read? (s : String) : Option Version := do
  let cs ← dropToken? ['v'] s.toList
  let first ← number? (cs.takeWhile isAsciiDigit)
  let (level, second) ← readLevel? (cs.dropWhile isAsciiDigit)
  return { level, first, second }

/-- The version that a text names. -/
def ofText (s : String) : Version :=
  (read? s).getD { level := .other, name := s }

/-- Whether `v` ranks below `w`. -/
def isBelow (v w : Version) : Bool :=
  if v.level ≠ w.level then v.level.place < w.level.place
  else if v.first ≠ w.first then v.first < w.first
  else if v.second ≠ w.second then v.second.elim 0 (· + 1) < w.second.elim 0 (· + 1)
  else w.name < v.name

/-- The first of the names that rank highest. -/
def latest? : List String → Option String
  | [] => none
  | s :: rest => some (rest.foldl (fun best t =>
      if (ofText best).isBelow (ofText t) then t else best) s)

end Version

end Slumber
