import Slumber.Pattern.Escape

/-!
# Classes in brackets

A class stands between brackets: characters, ranges, escapes, named ASCII classes and further
classes, and the operations `&&`, `--` and `~~` between them, which associate to the left. A caret
after the opening bracket complements the class. `readClass?` reads a class behind its opening
bracket and says how deep its parts are nested.
-/

namespace Slumber.Pattern

open Slumber.Text

/-- One member of a class: a single character or a set. -/
def readClassItem? (f : Flags) (cs : List Char) : Option (Escaped × List Char) :=
  let item :=
    match cs with
    | '\\' :: cs => readEscape? f cs
    | c :: cs => some (.char c, cs)
    | [] => none
  item.bind fun (e, rest) =>
    match e with
    | .char c => if f.ascii ∧ 128 ≤ c.toNat then none else some (e, rest)
    | .set _ => some (e, rest)
    | .assertion _ => none

/-- A named ASCII class `[:name:]`, with `^` in front of the name for its complement. -/
def readNamedClass? (f : Flags) (cs : List Char) : Option (Option CharSet × List Char) :=
  match cs with
  | '[' :: ':' :: cs =>
    let (negated, cs) :=
      match cs with
      | '^' :: cs => (true, cs)
      | cs => (false, cs)
    match cs.dropWhile (· ≠ ':') with
    | ':' :: ']' :: rest =>
      (CharSet.named? (String.ofList (cs.takeWhile (· ≠ ':')))).map fun s =>
        (f.negate? negated (f.apply s), rest)
    | _ => none
  | _ => none

/-- The operations between the parts of a class. -/
inductive ClassOp where
  | inter | difference | symmetric

/-- The set of an operation on two sets. -/
def ClassOp.apply (op : ClassOp) (a b : CharSet) : CharSet :=
  match op with
  | .inter => .inter a b
  | .difference => a.difference b
  | .symmetric => .union (a.difference b) (b.difference a)

/-- Members of a class that stand side by side: their union, their number, and how deep the deepest
of them is nested. -/
structure Members where
  set : CharSet := .none
  count : Nat := 0
  deepest : Nat := 0

namespace Members

/-- Adds a member. -/
def add (m : Members) (set : CharSet) (depth : Nat) : Members :=
  ⟨.union m.set set, m.count + 1, max m.deepest depth⟩

/-- How deep the members are nested; several of them are a part of their own. -/
def depth (m : Members) : Nat :=
  if 1 < m.count then m.deepest + 1 else m.deepest

end Members

/-- What stands before an operation: its set and how deep it is nested. -/
structure Operand where
  set : CharSet
  depth : Nat
  op : ClassOp

/-- The set of the members that end, combined with what stood before them, and its depth. -/
def combine (left : Option Operand) (m : Members) : CharSet × Nat :=
  match left with
  | none => (m.set, m.depth)
  | some l => (l.op.apply l.set m.set, max l.depth m.depth + 1)

/-- The members that an operation ends, as its left operand. -/
def operand (left : Option Operand) (m : Members) (op : ClassOp) : Option Operand :=
  let (set, depth) := combine left m
  some ⟨set, depth, op⟩

/-- The dashes in front of a class, which stand for themselves. -/
def readDashes (f : Flags) (cs : List Char) : Members × List Char :=
  let (dashes, cs) := spelled f (· = '-') cs.length cs
  (dashes.foldl (fun m c => m.add (f.apply (.single c)) 0) {}, cs)

/-- The set of one member that is no assertion. -/
def Escaped.toSet (f : Flags) : Escaped → CharSet
  | .char c => f.apply (.single c)
  | .set s => s
  | .assertion _ => .none

mutual

/-- Reads a class behind its opening bracket. -/
def readClass? : Nat → Flags → List Char → Option ((CharSet × Nat) × List Char)
  | 0, _, _ => none
  | fuel + 1, f, cs =>
    let (negated, cs) :=
      match skip f cs with
      | '^' :: cs => (true, skip f cs)
      | cs => (false, cs)
    let (members, cs) := readDashes f cs
    let (members, cs) :=
      match cs with
      | ']' :: rest =>
        if members.count = 0 then (members.add (f.apply (.single ']')) 0, skip f rest)
        else (members, cs)
      | cs => (members, cs)
    (readMembers? fuel f none members cs).bind fun ((set, depth), cs) =>
      (f.negate? negated set).map fun set => ((set, depth + 1), cs)

/-- Reads the members of a class up to its closing bracket. `left` is what stands before the last
operation and `m` what has been read since. -/
def readMembers? : Nat → Flags → Option Operand → Members → List Char →
    Option ((CharSet × Nat) × List Char)
  | 0, _, _, _, _ => none
  | fuel + 1, f, left, m, cs =>
    match skip f cs with
    | [] => none
    | ']' :: cs => some (combine left m, cs)
    | '[' :: cs =>
      match readNamedClass? f ('[' :: cs) with
      | some (s, cs) => s.bind fun s => readMembers? fuel f left (m.add s 0) cs
      | none =>
        match readClass? fuel f cs with
        | some ((s, depth), cs) => readMembers? fuel f left (m.add s depth) cs
        | none => none
    | '&' :: '&' :: cs => readMembers? fuel f (operand left m .inter) {} cs
    | '-' :: '-' :: cs => readMembers? fuel f (operand left m .difference) {} cs
    | '~' :: '~' :: cs => readMembers? fuel f (operand left m .symmetric) {} cs
    | cs =>
      match readClassItem? f cs with
      | none => none
      | some (first, rest) =>
        match skip f rest with
        | [] => none
        | '-' :: after =>
          match skip f after with
          | ']' :: _ | '-' :: _ => readMembers? fuel f left (m.add (first.toSet f) 0) rest
          | after =>
            match first, readClassItem? f after with
            | .char a, some (.char b, rest) =>
              if a ≤ b then
                readMembers? fuel f left (m.add (f.apply (.range a.toNat b.toNat)) 0) rest
              else none
            | _, _ => none
        | _ => readMembers? fuel f left (m.add (first.toSet f) 0) rest

end

end Slumber.Pattern
