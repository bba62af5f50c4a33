import Slumber.Decimal.Reading
import Slumber.Pattern.Bracket
import Slumber.Pattern.Size

/-!
# Reading a pattern from its text

`Pattern.read?` reads the notation of regular expressions: literal characters, escapes, classes in
brackets with set operations, groups with flags, alternatives, repetitions and assertions. A pattern
that looks around or refers back to a group is refused, as is everything that is not in the
notation, a name that two groups share, and what is nested too deep or takes too much room. Flags
hold from where they are set to the end of their group.
-/

namespace Slumber.Pattern

open Slumber.Text Slumber.Decimal

/-- A number in a counted repetition, with blanks around it. -/
def readCount? (f : Flags) (cs : List Char) : Option (Nat × List Char) :=
  let (ds, rest) := spelled f isAsciiDigit cs.length (trimLeft (skip f cs))
  if ds.isEmpty ∨ UInt32.size ≤ digitsValue ds then none
  else some (digitsValue ds, skip f (trimLeft rest))

/-- The bounds of a counted repetition behind its opening brace. -/
def readBounds? (f : Flags) (cs : List Char) : Option ((Nat × Option Nat) × List Char) := do
  let (least, cs) ← readCount? f cs
  match cs with
  | '\x7d' :: cs => return ((least, some least), cs)
  | ',' :: cs =>
    match skip f cs with
    | '\x7d' :: cs => return ((least, none), cs)
    | cs =>
      let (most, cs) ← readCount? f cs
      match cs with
      | '\x7d' :: cs => if least ≤ most then return ((least, some most), cs) else none
      | _ => none
  | _ => none

/-- Reads flags up to a colon or a closing parenthesis, which is given back. `seen` are the flags
so far, each of which may be set once, and `off` says whether a minus sign has been passed. -/
def readFlags? (f : Flags) (seen : List Char) (off : Bool) : List Char →
    Option (Flags × Char × List Char)
  | [] => none
  | c :: cs =>
    if c = ':' ∨ c = ')' then
      if seen.head? = some '-' then none
      else if c = ')' ∧ seen.isEmpty then none
      else some (f, c, cs)
    else if c ∈ seen then none
    else if c = '-' then readFlags? f ('-' :: seen) true cs
    else
      match f.set? (!off) c with
      | some f => readFlags? f (c :: seen) off cs
      | none => none

/-- Whether a group may have this name. -/
def isGroupName (name : List Char) : Bool :=
  match name with
  | [] => false
  | c :: cs =>
    (c == '_' || isAlphabetic c)
      && cs.all fun c => c == '_' || c == '.' || c == '[' || c == ']' || isAlphanumeric c

/-- A group's name up to the closing angle bracket. -/
def readName? (cs : List Char) : Option (List Char × List Char) :=
  let name := cs.takeWhile (· ≠ '>')
  match cs.drop name.length with
  | _ :: rest => if isGroupName name then some (name, rest) else none
  | [] => none

/-- A part of a pattern and how deep its own parts are nested. -/
structure Part where
  pattern : Pattern
  depth : Nat := 0

/-- Several parts as one: they are one level deeper. -/
def joinParts (join : Pattern → Pattern → Pattern) (last : Part) : List Part → Part
  | [] => last
  | before =>
    ⟨before.foldl (fun acc p => join p.pattern acc) last.pattern,
      before.foldl (fun n p => max n p.depth) last.depth + 1⟩

/-- What has been read of a group: earlier alternatives, and the items of the current one with the
last in front. `repeatable` says whether a repetition may follow, and `names` are the names of the
groups so far, in the whole pattern. -/
structure Progress where
  alternatives : List Part := []
  items : List Part := []
  repeatable : Bool := false
  names : List (List Char) := []

namespace Progress

/-- The current alternative as one part. -/
def current (p : Progress) : Part :=
  match p.items with
  | [] => ⟨.empty, 0⟩
  | last :: before => joinParts .seq last before

/-- Adds an item that may be repeated. -/
def push (p : Progress) (item : Pattern) (depth : Nat := 0) : Progress :=
  { p with items := ⟨item, depth⟩ :: p.items, repeatable := true }

/-- Adds a place where flags change. -/
def pushFlags (p : Progress) : Progress :=
  { p with items := ⟨.empty, 0⟩ :: p.items, repeatable := false }

/-- Starts the next alternative. -/
def next (p : Progress) : Progress :=
  { alternatives := p.current :: p.alternatives, names := p.names }

/-- The whole group as one part. -/
def finish (p : Progress) : Part :=
  joinParts .alt p.current p.alternatives

/-- Repeats the last item. -/
def repeatLast? (p : Progress) (least : Nat) (most : Option Nat) : Option Progress :=
  match p.items with
  | last :: before =>
    if p.repeatable then
      some { p with items := ⟨.repeated last.pattern least most, last.depth + 1⟩ :: before }
    else none
  | [] => none

end Progress

/-- Passes the mark of a repetition that takes as little as it can. -/
def passLazy : List Char → List Char
  | '?' :: cs => cs
  | cs => cs

/-- Reads a group up to its end: a closing parenthesis, which is left, or the end of the text. -/
def readGroup? : Nat → Flags → Progress → List Char → Option (Progress × List Char)
  | 0, _, _, _ => none
  | fuel + 1, f, p, cs =>
    match skip f cs with
    | [] => some (p, [])
    | ')' :: cs => some (p, ')' :: cs)
    | '|' :: cs => readGroup? fuel f p.next cs
    | '*' :: cs => (p.repeatLast? 0 none).bind fun p => readGroup? fuel f p (passLazy cs)
    | '+' :: cs => (p.repeatLast? 1 none).bind fun p => readGroup? fuel f p (passLazy cs)
    | '?' :: cs => (p.repeatLast? 0 (some 1)).bind fun p => readGroup? fuel f p (passLazy cs)
    | '\x7b' :: cs =>
      match readBounds? f cs with
      | none => none
      | some ((least, most), cs) =>
        (p.repeatLast? least most).bind fun p => readGroup? fuel f p (passLazy (skip f cs))
    | '^' :: cs =>
      readGroup? fuel f
        (p.push (.assertion (if f.manyLines then .lineStart f.crlf else .textStart))) cs
    | '$' :: cs =>
      readGroup? fuel f
        (p.push (.assertion (if f.manyLines then .lineEnd f.crlf else .textEnd))) cs
    | '.' :: cs => f.anyChar?.bind fun s => readGroup? fuel f (p.push (.one s)) cs
    | '[' :: cs =>
      match readClass? (2 * cs.length + 2) f cs with
      | some ((s, depth), cs) => readGroup? fuel f (p.push (.one s) depth) cs
      | none => none
    | '\\' :: cs =>
      match readEscape? f cs with
      | some (.char c, cs) => readGroup? fuel f (p.push (.one (f.apply (.single c)))) cs
      | some (.set s, cs) => readGroup? fuel f (p.push (.one s)) cs
      | some (.assertion a, cs) => readGroup? fuel f (p.push (.assertion a)) cs
      | none => none
    | '(' :: cs =>
      match skip f cs with
      | '?' :: 'P' :: '<' :: cs | '?' :: '<' :: cs =>
        (readName? cs).bind fun (name, cs) =>
          if name ∈ p.names then none
          else readInner fuel f f { p with names := name :: p.names } cs
      | '?' :: cs =>
        match readFlags? f [] false cs with
        | some (g, ':', cs) => readInner fuel f g p cs
        | some (g, _, cs) => readGroup? fuel g p.pushFlags cs
        | none => none
      | cs => readInner fuel f f p cs
    | c :: cs => readGroup? fuel f (p.push (.one (f.apply (.single c)))) cs
where
  /-- Reads an inner group under the flags `inner` and goes on behind it under `outer`. -/
  readInner (fuel : Nat) (outer inner : Flags) (p : Progress) (cs : List Char) :
      Option (Progress × List Char) :=
    match readGroup? fuel inner { names := p.names } cs with
    | some (q, ')' :: rest) =>
      let body := q.finish
      readGroup? fuel outer
        ({ p with names := q.names }.push body.pattern (body.depth + 1)) rest
    | _ => none

/-- How deep the parts of a pattern may be nested. -/
def depthLimit : Nat := 250

/-- The pattern that a text writes. -/
def read? (text : String) : Option Pattern :=
  let cs := text.toList
  match readGroup? (cs.length + 1) {} {} cs with
  | some (p, []) =>
    let whole := p.finish
    if whole.depth ≤ depthLimit ∧ whole.pattern.size ≤ sizeLimit then some whole.pattern else none
  | _ => none

end Slumber.Pattern
