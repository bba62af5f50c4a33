import Slumber.FiniteMap
import Slumber.Text.Words

/-!
# Selecting by labels

A label selector is a list of terms with commas: `k=v` or `k==v` for a label with that value, `k!=v`
for one that is missing or has another value, `k` for one that is there and `!k` for one that is
not. Blank terms are passed over, and all others have to hold.
-/

namespace Slumber.LabelSelector

open Slumber.Text

/-- A condition on the labels of an object. -/
inductive Term where
  | equal (key value : String)
  | notEqual (key value : String)
  | present (key : String)
  | absent (key : String)
deriving DecidableEq, Repr

/-- Reads a term. -/
def Term.ofChars (cs : List Char) : Term :=
  let trimmed (cs : List Char) : String := String.ofList (trimChars cs)
  match cutAtText ['!', '='] cs with
  | some (k, v) => .notEqual (trimmed k) (trimmed v)
  | none =>
    match cutAtText ['=', '='] cs <|> cutAt '=' cs with
    | some (k, v) => .equal (trimmed k) (trimmed v)
    | none =>
      match cs with
      | '!' :: k => .absent (trimmed k)
      | cs => .present (String.ofList cs)

/-- Whether a condition holds. -/
def Term.holds (labels : FiniteMap String String) : Term → Bool
  | .equal k v => labels.find? k == some v
  | .notEqual k v => labels.find? k != some v
  | .present k => labels.contains k
  | .absent k => !labels.contains k

/-- The terms of a selector. -/
def terms (selector : String) : List Term :=
  (names selector).map fun t => Term.ofChars t.toList

/-- Whether a selector selects an object with these labels. -/
def selects (selector : String) (labels : FiniteMap String String) : Bool :=
  (terms selector).all (Term.holds labels)

end Slumber.LabelSelector
