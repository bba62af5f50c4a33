import Slumber.Json.Basic

/-!
# Reading records from documents

A record with named parts is written as an object, or as an array with the parts in a fixed order.
`Json.record?` gives the parts in either form; `part?` reads a part that has to be there and
`partOr` one that may be left out. Parts that a record does not know are passed over in an object
and refused in an array. The readers of single values take exactly one form each: a whole number is
never read from a floating-point one, and `null` only where `nullable?` allows it.
-/

namespace Slumber

/-- The parts of a record by name. -/
abbrev Record := FiniteMap String Json

namespace Record

/-- Reads a part that has to be there. -/
def part? {α : Type} (r : Record) (name : String) (read : Json → Option α) : Option α :=
  (r.find? name).bind read

/-- Reads a part that may be left out. -/
def partOr {α : Type} (r : Record) (name : String) (default : α) (read : Json → Option α) :
    Option α :=
  match r.find? name with
  | none => some default
  | some j => read j

end Record

namespace Json

/-- The parts of a record whose parts have the given names, in their order. -/
def record? (names : List String) : Json → Option Record
  | .obj fields => some fields
  | .arr parts => if parts.length ≤ names.length then some (names.zip parts) else none
  | _ => none

/-- A truth value. -/
def bool? : Json → Option Bool
  | .bool b => some b
  | _ => none

/-- A whole number of 32 signed bits. -/
def word32? : Json → Option Int32
  | .int i => if -0x80000000 ≤ i ∧ i < 0x80000000 then some (Int32.ofInt i) else none
  | _ => none

/-- A whole number of 64 signed bits. -/
def word64? (j : Json) : Option Int64 :=
  j.int64?.map Int64.ofInt

/-- An array of values of one kind. -/
def list? {α : Type} (read : Json → Option α) : Json → Option (List α)
  | .arr xs => xs.mapM read
  | _ => none

/-- An object whose fields all hold values of one kind. -/
def map? {α : Type} (read : Json → Option α) : Json → Option (FiniteMap String α)
  | .obj fields => fields.mapM fun (k, j) => (read j).map fun v => (k, v)
  | _ => none

/-- A value, or `null` for its absence. -/
def nullable? {α : Type} (read : Json → Option α) : Json → Option (Option α)
  | .null => some none
  | j => (read j).map some

/-- A word of a fixed list, in a string or as the only field, holding `null`, of an object. -/
def word? {α : Type} (words : List (String × α)) : Json → Option α
  | .str s => FiniteMap.find? words s
  | .obj [(s, .null)] => FiniteMap.find? words s
  | _ => none

/-- A number of 32 signed bits as a document. -/
def ofWord32 (n : Int32) : Json :=
  .int n.toInt

/-- A number of 64 signed bits as a document. -/
def ofWord64 (n : Int64) : Json :=
  .int n.toInt

/-- A field that is written only if its value is not empty. -/
def fieldUnless (empty : Bool) (name : String) (value : Json) : List (String × Json) :=
  if empty then [] else [(name, value)]

/-- A field that is written only if it has a value. -/
def fieldIfSome {α : Type} (name : String) (write : α → Json) : Option α → List (String × Json)
  | none => []
  | some v => [(name, write v)]

/-- An array of texts. -/
def texts (ss : List String) : Json :=
  .arr (ss.map .str)

end Json

end Slumber
