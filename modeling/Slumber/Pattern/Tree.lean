import Slumber.Pattern.CharSet

/-!
# Patterns and what they match

A `Pattern` is a regular expression without captures: sets of characters, assertions on a place in
the text, sequences, alternatives and counted repetitions. `Pattern.ends` gives the places at which
a match that starts at a given place can end, each once, and `Pattern.occursIn` says whether a match
starts anywhere in a text. There is no backtracking: a repetition collects the places it reaches.
-/

namespace Slumber

namespace Pattern

/-- What an assertion demands of a place between two characters. -/
inductive Assertion where
  | textStart
  | textEnd
  | lineStart (crlf : Bool)
  | lineEnd (crlf : Bool)
  | wordEdge (ascii : Bool)
  | notWordEdge (ascii : Bool)
  | wordStart (ascii : Bool)
  | wordEnd (ascii : Bool)
  | wordStartHalf (ascii : Bool)
  | wordEndHalf (ascii : Bool)
deriving DecidableEq, Repr

/-- Whether an assertion holds at place `i` of a text. -/
def Assertion.holds (a : Assertion) (text : Array Char) (i : Nat) : Bool :=
  let before := if i = 0 then none else text[i - 1]?
  let after := text[i]?
  let word (ascii : Bool) (c : Option Char) : Bool :=
    (c.map fun c => if ascii then isAsciiWord c else isWord c).getD false
  match a with
  | .textStart => i == 0
  | .textEnd => i == text.size
  | .lineStart false => i == 0 || before == some '\n'
  | .lineStart true =>
    i == 0 || before == some '\n' || (before == some '\r' && after != some '\n')
  | .lineEnd false => i == text.size || after == some '\n'
  | .lineEnd true =>
    i == text.size || after == some '\r' || (after == some '\n' && before != some '\r')
  | .wordEdge ascii => word ascii before != word ascii after
  | .notWordEdge ascii => word ascii before == word ascii after
  | .wordStart ascii => !word ascii before && word ascii after
  | .wordEnd ascii => word ascii before && !word ascii after
  | .wordStartHalf ascii => !word ascii before
  | .wordEndHalf ascii => !word ascii after

end Pattern

/-- A regular expression. -/
inductive Pattern where
  | empty
  | one (set : Pattern.CharSet)
  | assertion (a : Pattern.Assertion)
  | seq (first second : Pattern)
  | alt (left right : Pattern)
  | repeated (body : Pattern) (least : Nat) (most : Option Nat)

namespace Pattern

/-- Adds the places of `new` that are not in `old`. -/
def addPlaces (old new : List Nat) : List Nat :=
  new.foldl (fun acc i => if i ∈ acc then acc else acc ++ [i]) old

/-- The places reached from any of `places` by one step. -/
def advance (step : Nat → List Nat) (places : List Nat) : List Nat :=
  places.foldl (fun acc i => addPlaces acc (step i)) []

/-- The places reached from `places` by exactly `n` steps. Places that one step leaves as they are
stay so. -/
def advanceTimes (step : Nat → List Nat) : Nat → List Nat → List Nat
  | 0, places => places
  | n + 1, places =>
    let next := advance step places
    if next = places then places else advanceTimes step n next

/-- The places in `seen` and those reached from `fresh` by at most `n` further steps. -/
def reach (step : Nat → List Nat) : Nat → (seen fresh : List Nat) → List Nat
  | 0, seen, _ => seen
  | n + 1, seen, fresh =>
    let next := (advance step fresh).filter fun i => i ∉ seen
    if next.isEmpty then seen else reach step n (seen ++ next) next

/-- The places at which a match that starts at place `i` can end. -/
def ends (text : Array Char) : Pattern → Nat → List Nat
  | .empty, i => [i]
  | .one set, i =>
    match text[i]? with
    | some c => if set.contains c then [i + 1] else []
    | none => []
  | .assertion a, i => if a.holds text i then [i] else []
  | .seq first second, i => advance (ends text second) (ends text first i)
  | .alt left right, i => addPlaces (ends text left i) (ends text right i)
  | .repeated body least most, i =>
    let start := advanceTimes (ends text body) least [i]
    let further := (most.map (· - least)).getD (text.size + 1)
    reach (ends text body) (min further (text.size + 1)) start start

/-- Whether the pattern matches some part of a text. -/
def occursIn (p : Pattern) (s : String) : Bool :=
  let text := s.toList.toArray
  (List.range (text.size + 1)).any fun i => !(ends text p i).isEmpty

end Pattern

end Slumber
