import Slumber.Decimal.Whole
import Slumber.Json.Basic
import Slumber.Text.Words

/-!
# Pointers into documents

A pointer is the list of steps from the root of a document to one of its parts: the key of an
object's field or the index of an array's element. Its text puts a slash before every step and
writes `~` as `~0` and `/` as `~1`. `Json.at?` follows a pointer, `Pointer.read?` reads its text.
-/

namespace Slumber

/-- The steps from the root of a document to one of its parts. -/
abbrev Pointer := List String

namespace Pointer

open Slumber.Text

/-- A step as it stands in a pointer's text. -/
def escapeStep (s : String) : List Char :=
  s.toList.flatMap fun c => if c = '~' then ['~', '0'] else if c = '/' then ['~', '1'] else [c]

/-- Reads a step back; a tilde must stand before `0` or `1`. -/
def readStep? : List Char → Option (List Char)
  | [] => some []
  | '~' :: '0' :: cs => (readStep? cs).map ('~' :: ·)
  | '~' :: '1' :: cs => (readStep? cs).map ('/' :: ·)
  | c :: cs => if c = '~' then none else (readStep? cs).map (c :: ·)

/-- The text of a pointer. -/
def text (p : Pointer) : String :=
  String.ofList (p.flatMap fun s => '/' :: escapeStep s)

/-- Reads the text of a pointer: empty for the root, else with a slash in front. -/
def read? (s : String) : Option Pointer :=
  match s.toList with
  | [] => some []
  | '/' :: cs => (splitOn '/' cs).mapM fun step => (readStep? step).map String.ofList
  | _ => none

/-- The index that a step names in an array: plain digits without leading zeros. -/
def index? (step : String) : Option Nat :=
  match step.toList with
  | [] => none
  | ['0'] => some 0
  | '0' :: _ => none
  | cs => (Decimal.digits? cs).filter (· ≤ Decimal.maxUnsigned64)

end Pointer

namespace Json

/-- The part of a document that a pointer leads to. -/
def at? : Json → Pointer → Option Json
  | j, [] => some j
  | .obj fields, step :: rest =>
    match FiniteMap.find? fields step with
    | some x => x.at? rest
    | none => none
  | .arr xs, step :: rest =>
    match Pointer.index? step with
    | some i =>
      match xs[i]? with
      | some x => x.at? rest
      | none => none
    | none => none
  | _, _ :: _ => none

@[simp] theorem at?_nil (j : Json) : j.at? [] = some j := by
  cases j <;> rfl

end Json

end Slumber
