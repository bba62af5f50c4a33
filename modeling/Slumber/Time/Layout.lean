import Slumber.Time.Reading

/-!
# Layouts written as a reference date

A layout shows how the reference date, Monday 2 January 2006, 15:04:05 in the zone MST seven hours
behind Universal Time, would be written. `Layout.format` replaces the parts of that date by the
specifiers of a format; a layout that holds a percent sign is taken to be a format already.
`Layout.readInstant?` reads a text by a layout: a text without an offset is in Universal Time, and a
text without a time of day means midnight.
-/

namespace Slumber.Time.Layout

open Slumber.Text

/-- The parts of the reference date with their specifiers. Of two that fit, the earlier counts. -/
def parts : List (String × String) :=
  [("January", "%B"), ("Monday", "%A"),
   (".000000000", "%.9f"), (".999999999", "%.f"), (".000000", "%.6f"), (".000", "%.3f"),
   ("Z07:00", "%:z"), ("-07:00", "%:z"), ("-0700", "%z"),
   ("2006", "%Y"), ("Jan", "%b"), ("Mon", "%a"), ("MST", "%Z"),
   ("15", "%H"), ("01", "%m"), ("02", "%d"), ("03", "%I"), ("04", "%M"), ("05", "%S"),
   ("06", "%y"), ("PM", "%p")]

/-- The part of the reference date that stands in front, as its specifier, and the rest. -/
def partInFront? (cs : List Char) : Option (List Char × List Char) :=
  parts.findSome? fun (part, specifier) =>
    (dropToken? part.toList cs).map fun rest => (specifier.toList, rest)

/-- Replaces the parts from left to right; `fuel` bounds the number of characters looked at. -/
def replaceParts : Nat → List Char → List Char
  | 0, _ | _, [] => []
  | fuel + 1, c :: cs =>
    match partInFront? (c :: cs) with
    | some (specifier, rest) => specifier ++ replaceParts fuel rest
    | none => c :: replaceParts fuel cs

/-- The text of the format that a layout stands for. -/
def format (layout : String) : String :=
  let cs := layout.toList
  if '%' ∈ cs then layout else String.ofList (replaceParts cs.length cs)

/-- The instant that a text gives by a layout. -/
def readInstant? (value layout : String) : Option Instant :=
  let format := Format.ofText (format layout)
  Instant.read? format value
    <|> (LocalTime.read? format value).map (·.toInstant 0)
    <|> (do
      let f ← Fields.read? format value
      let day ← f.date.toOption
      return (⟨day, 0, 0⟩ : LocalTime).toInstant 0)

end Slumber.Time.Layout
