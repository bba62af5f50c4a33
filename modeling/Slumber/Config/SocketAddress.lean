import Slumber.Text.CodePoints
import Slumber.Text.Letters

/-!
# Socket addresses

A socket address is an address of the Internet Protocol, of version 4 or 6, and a port:
`0.0.0.0:8080` or `[2001:db8::1]:1`. `SocketAddress.read?` reads the usual notation: decimal parts
have no leading zeros, one run of zero groups may be left out, and the last two groups may be
written as an address of version 4. `SocketAddress.text` writes an address with its first longest
run of zero groups left out.
-/

namespace Slumber

open Slumber.Text

/-- An address of the Internet Protocol: four bytes, or eight groups of 16 bits and a scope. -/
inductive IpAddress where
  | v4 (bytes : List Nat)
  | v6 (groups : List Nat) (scope : Nat)
deriving DecidableEq, Repr

/-- An address and a port. -/
structure SocketAddress where
  ip : IpAddress
  port : Nat
deriving DecidableEq, Repr

namespace SocketAddress

/-- Passes the character `c`. -/
def pass? (c : Char) : List Char → Option (List Char)
  | [] => none
  | d :: cs => if d = c then some cs else none

/-- The value of a digit in a base of up to sixteen. -/
def digitIn? (base : Nat) (c : Char) : Option Nat :=
  (hexDigit? c).filter (· < base)

/-- All digits in front as a number up to `limit`. `most` bounds their number if it is not zero, and
without `zeros` there is no leading zero. -/
def number? (base most limit : Nat) (zeros : Bool) (cs : List Char) : Option (Nat × List Char) :=
  let ds := cs.takeWhile fun c => (digitIn? base c).isSome
  let n := ds.foldl (fun n c => n * base + (digitIn? base c).getD 0) 0
  if ds.isEmpty ∨ (most ≠ 0 ∧ most < ds.length) then none
  else if !zeros ∧ ds.head? = some '0' ∧ 1 < ds.length then none
  else if n ≤ limit then some (n, cs.drop ds.length)
  else none

/-- One byte of an address of version 4. -/
def byte? (cs : List Char) : Option (Nat × List Char) :=
  number? 10 3 255 false cs

/-- The four bytes of an address of version 4. -/
def bytes? (cs : List Char) : Option (List Nat × List Char) := do
  let (a, cs) ← byte? cs
  let (b, cs) ← byte? (← pass? '.' cs)
  let (c, cs) ← byte? (← pass? '.' cs)
  let (d, cs) ← byte? (← pass? '.' cs)
  return ([a, b, c, d], cs)

/-- Up to `limit` groups with colons between them, read as far as they go, and whether the last two
were written as four bytes. `first` is for the first group, which has no colon in front. -/
def groups : (limit : Nat) → (first : Bool) → List Char → List Nat × Bool × List Char
  | 0, _, cs => ([], false, cs)
  | limit + 1, first, cs =>
    let start := if first then some cs else pass? ':' cs
    match if limit = 0 then none else start.bind bytes? with
    | some ([a, b, c, d], rest) => ([a * 256 + b, c * 256 + d], true, rest)
    | _ =>
      match start.bind (number? 16 4 65535 true) with
      | none => ([], false, cs)
      | some (g, rest) =>
        let (gs, bytes, rest) := groups limit false rest
        (g :: gs, bytes, rest)

/-- The eight groups of an address of version 6. -/
def eightGroups? (cs : List Char) : Option (List Nat × List Char) := do
  let (head, bytes, rest) := groups 8 true cs
  if head.length = 8 then return (head, rest)
  if bytes then none
  let rest ← pass? ':' (← pass? ':' rest)
  let (tail, _, rest) := groups (7 - head.length) true rest
  return (head ++ List.replicate (8 - head.length - tail.length) 0 ++ tail, rest)

/-- A port behind its colon. -/
def port? (cs : List Char) : Option (Nat × List Char) := do
  number? 10 0 65535 true (← pass? ':' cs)

/-- An address of version 4 with its port. -/
def readV4? (cs : List Char) : Option (SocketAddress × List Char) := do
  let (bytes, cs) ← bytes? cs
  let (port, cs) ← port? cs
  return (⟨.v4 bytes, port⟩, cs)

/-- An address of version 6 in brackets, with its scope if it has one, and its port. -/
def readV6? (cs : List Char) : Option (SocketAddress × List Char) := do
  let (groups, cs) ← eightGroups? (← pass? '[' cs)
  let (scope, cs) :=
    (((pass? '%' cs).bind (number? 10 0 0xFFFFFFFF true)) : Option (Nat × List Char)).getD (0, cs)
  let (port, cs) ← port? (← pass? ']' cs)
  return (⟨.v6 groups scope, port⟩, cs)

/-- Reads a socket address. -/
def read? (s : String) : Option SocketAddress :=
  match readV4? s.toList <|> readV6? s.toList with
  | some (a, []) => some a
  | _ => none

/-- The first longest run of zeros in a list, as its position and length. -/
def zeroRun (gs : List Nat) : Nat × Nat :=
  (List.range gs.length).foldl (fun best i =>
    let n := ((gs.drop i).takeWhile (· == 0)).length
    if best.2 < n then (i, n) else best) (0, 0)

/-- Groups with colons between them. -/
def groupsText (gs : List Nat) : String :=
  ":".intercalate (gs.map hexText)

/-- Bytes with points between them. -/
def bytesText (bs : List Nat) : String :=
  ".".intercalate (bs.map toString)

/-- The text of an address of version 6. -/
def v6Text (gs : List Nat) : String :=
  match gs with
  | [0, 0, 0, 0, 0, 65535, a, b] =>
    "::ffff:" ++ bytesText [a / 256, a % 256, b / 256, b % 256]
  | gs =>
    let (start, length) := zeroRun gs
    if length ≤ 1 then groupsText gs
    else groupsText (gs.take start) ++ "::" ++ groupsText (gs.drop (start + length))

/-- The text of a socket address. -/
def text (a : SocketAddress) : String :=
  match a.ip with
  | .v4 bytes => bytesText bytes ++ ":" ++ toString a.port
  | .v6 groups scope =>
    "[" ++ v6Text groups ++ (if scope = 0 then "" else "%" ++ toString scope) ++ "]:"
      ++ toString a.port

end SocketAddress

end Slumber
