import Slumber.Expression.Grammar
import Slumber.Expression.Interpreter
import Slumber.Overflow

/-!
# Deciding field expressions on documents

A field expression without placeholders is a comparison. One with placeholders `{{path}}` is an
expression in which each distinct path, without surrounding blanks, becomes a name `var0`, `var1`, …
in the order of first occurrence, with the value that the path finds in the document, or `nil`.
`bindPlaceholders` does that, `evaluateAt` decides an expression, and `matchesAt` counts every error
and every value that is no boolean as no match.
-/

namespace Slumber.Expression

open Slumber.Text

/-- A placeholder in front: its path, and what follows it. No brace may stand in the path. -/
def placeholder? : List Char → Option (List Char × List Char)
  | '\x7b' :: '\x7b' :: cs =>
    let inPath (c : Char) : Bool := c ≠ '\x7b' && c ≠ '\x7d'
    match cs.dropWhile inPath with
    | '\x7d' :: '\x7d' :: rest => some (cs.takeWhile inPath, rest)
    | _ => none
  | _ => none

/-- The names given to the paths so far, in the order of their first occurrence. -/
abbrev Bindings := List String

namespace Bindings

/-- The name of the `i`th path. -/
def name (i : Nat) : String :=
  "var" ++ toString i

/-- The number of a path, and the bindings with it added if it is new. -/
def number (b : Bindings) (path : String) : Nat × Bindings :=
  if path ∈ b then (b.idxOf path, b) else (b.length, b ++ [path])

/-- The values of the bound names. -/
def values (b : Bindings) (document : Json) : FiniteMap String Value :=
  FiniteMap.ofList <| b.zipIdx.map fun (path, i) =>
    (name i, ((document.resolve? path).map Value.ofJson).getD .nil)

end Bindings

/-- Replaces the placeholders from left to right; `fuel` bounds how many characters are read. -/
def replacePlaceholders : Nat → Bindings → List Char → List Char × Bindings
  | 0, b, _ | _, b, [] => ([], b)
  | fuel + 1, b, c :: cs =>
    match placeholder? (c :: cs) with
    | some (path, rest) =>
      let (i, b) := b.number (trim (String.ofList path))
      let (text, b) := replacePlaceholders fuel b rest
      ((Bindings.name i).toList ++ text, b)
    | none =>
      let (text, b) := replacePlaceholders fuel b cs
      (c :: text, b)

/-- The expression with names for its placeholders, and the values of the names. -/
def bindPlaceholders (expression : String) (document : Json) :
    String × FiniteMap String Value :=
  let cs := expression.toList
  let (text, b) := replacePlaceholders cs.length [] cs
  (String.ofList text, b.values document)

/-- Whether an expression has two opening braces in a row. -/
def hasPlaceholder (expression : String) : Bool :=
  (cutAtText ['\x7b', '\x7b'] expression.toList).isSome

/-- Decides an expression on a document, with `now` as the clock. A value that is no boolean counts
as false. -/
def evaluateAt (expression : String) (document : Json) (now : Instant) : Outcome Bool :=
  if hasPlaceholder expression then
    let (text, names) := bindPlaceholders expression document
    match Tree.parse text with
    | .error fault => .error (.error (.parse fault))
    | .ok tree =>
      match tree.eval ⟨names, now⟩ with
      | .error e => .error e
      | .ok (.bool b) => .ok b
      | .ok _ => .ok false
  else
    match Comparison.evaluate document expression with
    | .ok b => .ok b
    | .error e => .error (.error e)

/-- Whether a document matches an expression. An expression with an error matches nothing. A period
that is too long for a length of time ends the run. -/
def matchesAt (expression : String) (document : Json) (now : Instant) : Except Overflow Bool :=
  match evaluateAt expression document now with
  | .ok b => .ok b
  | .error (.error _) => .ok false
  | .error .overflow => .error .tooLarge

end Slumber.Expression
