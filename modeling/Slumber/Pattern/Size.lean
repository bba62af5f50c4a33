import Slumber.Pattern.Tree

/-!
# The size of patterns

A pattern that would take too much room when it is laid out place by place is refused.
`Pattern.size` is the room it takes, where a counted repetition takes the room of all its copies; a
set within ASCII is laid out in one place, and any other set in about sixty bytes for each of its
ranges.
-/

namespace Slumber.Pattern

open Slumber.Text

namespace CharSet

/-- How many ranges the set is made of, at most or nearly so. -/
def rangeCount : CharSet → Nat
  | .none => 0
  | .range _ _ => 1
  | .digit => categoryNd.ranges.size
  | .space => 10
  | .word => alphabeticTable.ranges.size + categoryMn.ranges.size
  | .table points => points.ranges.size
  | .union a b => a.rangeCount + b.rangeCount
  | .inter a b => max a.rangeCount b.rangeCount
  | .compl a => a.rangeCount + 1
  | .anyCase a => 2 * a.rangeCount

/-- Whether the set is seen to lie within ASCII. -/
def isAscii : CharSet → Bool
  | .none => true
  | .range _ last => last < 128
  | .union a b => a.isAscii && b.isAscii
  | .inter a b => a.isAscii || b.isAscii
  | .digit | .space | .word | .table _ | .compl _ | .anyCase _ => false

/-- The bytes of a set that is laid out. -/
def size (set : CharSet) : Nat :=
  match set with
  | .range first last =>
    if last < 128 then 32
    else if first = last then 32 * (Char.ofNat first).utf8Size
    else 400
  | set => if set.isAscii then 32 + 8 * set.rangeCount else 32 + 60 * set.rangeCount

end CharSet

/-- Whether the pattern takes no characters, wherever it matches. -/
def takesNothing : Pattern → Bool
  | .empty | .assertion _ => true
  | .one _ => false
  | .seq first second => first.takesNothing && second.takesNothing
  | .alt left right => left.takesNothing && right.takesNothing
  | .repeated body _ most => body.takesNothing || most == some 0

/-- The bytes of a pattern that is laid out. What takes no characters is not laid out twice. -/
def size : Pattern → Nat
  | .empty | .assertion _ => 32
  | .one set => set.size
  | .seq first second => first.size + second.size
  | .alt left right => 32 + left.size + right.size
  | .repeated body least most =>
    let copies := max 1 (most.getD least)
    32 + body.size * if body.takesNothing then 1 else copies

/-- The greatest size: ten mebibytes. -/
def sizeLimit : Nat := 10 * 1024 * 1024

end Slumber.Pattern
