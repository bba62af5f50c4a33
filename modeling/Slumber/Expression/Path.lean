import Slumber.Decimal.Whole
import Slumber.Json.Basic
import Slumber.Text.Blank

/-!
# Paths to the fields of a document

A path names a part of a document by segments with dots between them; a backslash takes the next
character as it is, dots included. A segment names a field of an object or an element of an array by
its index. The segment `#` on an array gives the array's length if it is the last one, and otherwise
collects what the rest of the path finds in the elements. `Json.resolve?` follows a path.
-/

namespace Slumber

namespace Expression

open Slumber.Text

/-- The segments of a list of characters; `current` is the segment that is being read, the last
character in front. -/
def segmentsFrom (current : List Char) : List Char → List String
  | [] => [String.ofList current.reverse]
  | '\\' :: [] => [String.ofList current.reverse]
  | '\\' :: c :: cs => segmentsFrom (c :: current) cs
  | c :: cs =>
    if c = '.' then String.ofList current.reverse :: segmentsFrom [] cs
    else segmentsFrom (c :: current) cs

/-- The segments of a path. -/
def segments (path : String) : List String :=
  segmentsFrom [] (trimChars path.toList)

end Expression

namespace Json

open Slumber.Decimal

/-- The part of a document that one segment names. -/
def step? (j : Json) (segment : String) : Option Json :=
  match j with
  | .obj fields => FiniteMap.find? fields segment
  | .arr xs =>
    match readUnsigned maxUnsigned64 segment.toList with
    | .ok i => xs[i]?
    | .error _ => none
  | _ => none

/-- What a list of segments finds in a document. -/
def walk? : List String → Json → Option Json
  | [], j => some j
  | segment :: rest, j =>
    if segment = "#" then
      match j with
      | .arr xs =>
        if rest.isEmpty then some (.int xs.length) else some (.arr (xs.filterMap (walk? rest)))
      | _ => none
    else
      match j.step? segment with
      | some x => walk? rest x
      | none => none

/-- What a path finds in a document. A blank path finds nothing. -/
def resolve? (document : Json) (path : String) : Option Json :=
  if (Text.trimChars path.toList).isEmpty then none
  else walk? (Expression.segments path) document

end Json

end Slumber
