import Slumber.Json.Basic
import Slumber.Time.Instant

/-!
# The values of expressions

Expressions compute with booleans, numbers, strings, arrays, maps and instants, and with `nil` for
what is missing. Every value of a document has a counterpart, `Value.ofJson`; whole numbers become
floating-point ones. `Value.same` is the equality of expressions: numbers are compared as numbers,
so a value that is not a number differs from itself.
-/

namespace Slumber.Expression

/-- A value of an expression. -/
inductive Value where
  | nil
  | bool (b : Bool)
  | number (x : Float)
  | string (s : String)
  | array (items : List Value)
  | map (fields : List (String × Value))
  | time (t : Instant)
deriving Inhabited

/-- The kinds of values. -/
inductive Kind where
  | nil | bool | number | string | array | map | time
deriving DecidableEq, Repr

/-- The name of a kind in messages. -/
def Kind.text : Kind → String
  | .nil => "nil"
  | .bool => "bool"
  | .number => "number"
  | .string => "string"
  | .array => "array"
  | .map => "map"
  | .time => "time"

namespace Value

/-- The kind of a value. -/
def kind : Value → Kind
  | .nil => .nil
  | .bool _ => .bool
  | .number _ => .number
  | .string _ => .string
  | .array _ => .array
  | .map _ => .map
  | .time _ => .time

mutual

/-- The value of a document. -/
def ofJson : Json → Value
  | .null => .nil
  | .bool b => .bool b
  | .int i => .number (Float.ofInt i)
  | .float x => .number x
  | .str s => .string s
  | .arr xs => .array (ofElements xs)
  | .obj fields => .map (ofFields fields)

/-- The values of the elements of an array. -/
def ofElements : List Json → List Value
  | [] => []
  | x :: xs => ofJson x :: ofElements xs

/-- The values of the fields of an object. -/
def ofFields : List (String × Json) → List (String × Value)
  | [] => []
  | (k, x) :: xs => (k, ofJson x) :: ofFields xs

end

mutual

/-- Equality of values. -/
def same : Value → Value → Bool
  | .nil, .nil => true
  | .bool a, .bool b => a == b
  | .number a, .number b => a == b
  | .string a, .string b => a == b
  | .array a, .array b => sameItems a b
  | .map a, .map b => sameFields a b
  | .time a, .time b => a == b
  | _, _ => false

/-- Equality of lists of values. -/
def sameItems : List Value → List Value → Bool
  | [], [] => true
  | x :: xs, y :: ys => same x y && sameItems xs ys
  | _, _ => false

/-- Equality of the fields of maps. -/
def sameFields : List (String × Value) → List (String × Value) → Bool
  | [], [] => true
  | (k, x) :: xs, (l, y) :: ys => k == l && same x y && sameFields xs ys
  | _, _ => false

end

end Value

end Slumber.Expression
