import Slumber.Json.Pointer

/-!
# Changing a document by a list of operations

A `Patch` is a list of operations, each at a pointer: add, remove, replace, move, copy and test.
`Patch.apply` runs them in order and stops at the first that fails, with its position, its path and
the reason; the document then stays as it was, for the result is a new document. `Patch.ofJson?`
reads the operations from a document and `Patch.toJson` writes them.
-/

namespace Slumber

/-- One change of a document. -/
inductive PatchOperation where
  | add (path : Pointer) (value : Json)
  | remove (path : Pointer)
  | replace (path : Pointer) (value : Json)
  | move (source path : Pointer)
  | copy (source path : Pointer)
  | test (path : Pointer) (value : Json)

/-- Changes of a document, in order. -/
abbrev Patch := List PatchOperation

/-- Why an operation does not apply. -/
inductive PatchFault where
  | testFailed
  | invalidSource
  | invalidPath
  | moveIntoItself
deriving DecidableEq, Repr

/-- The operation of a patch that failed, and why. -/
structure PatchError where
  position : Nat
  path : Pointer
  fault : PatchFault
deriving DecidableEq, Repr

namespace PatchFault

/-- The wording of each fault. -/
def message : PatchFault → String
  | .testFailed => "value did not match"
  | .invalidSource => "\"from\" path is invalid"
  | .invalidPath => "path is invalid"
  | .moveIntoItself => "cannot move the value inside itself"

end PatchFault

/-- The wording of a failed patch. -/
def PatchError.message (e : PatchError) : String :=
  "operation '/" ++ toString e.position ++ "' failed at path '" ++ Pointer.text e.path ++ "': "
    ++ e.fault.message

namespace Json

mutual

/-- Whether two documents have the same value. Floating-point numbers are compared as numbers, so
the two zeros are the same; a whole number is never the same as a floating-point one. -/
def sameValue : Json → Json → Bool
  | .null, .null => true
  | .bool a, .bool b => a == b
  | .int a, .int b => a == b
  | .float a, .float b => a == b
  | .str a, .str b => a == b
  | .arr a, .arr b => sameElements a b
  | .obj a, .obj b => sameFields a b
  | _, _ => false

/-- Whether two lists of documents have the same values. -/
def sameElements : List Json → List Json → Bool
  | [], [] => true
  | x :: xs, y :: ys => sameValue x y && sameElements xs ys
  | _, _ => false

/-- Whether two objects have the same fields. -/
def sameFields : List (String × Json) → List (String × Json) → Bool
  | [], [] => true
  | (k, x) :: xs, (l, y) :: ys => k == l && sameValue x y && sameFields xs ys
  | _, _ => false

end

/-- Changes the part of a document that a pointer leads to. -/
def modifyAt (f : Json → Except PatchFault Json) : Pointer → Json → Except PatchFault Json
  | [], j => f j
  | step :: rest, .obj fields =>
    match FiniteMap.find? fields step with
    | some x => (modifyAt f rest x).map fun y => .obj (FiniteMap.insert fields step y)
    | none => .error .invalidPath
  | step :: rest, .arr xs =>
    match Pointer.index? step with
    | some i =>
      match xs[i]? with
      | some x => (modifyAt f rest x).map fun y => .arr (xs.set i y)
      | none => .error .invalidPath
    | none => .error .invalidPath
  | _ :: _, _ => .error .invalidPath

/-- Adds a field or an element under `step`; `-` stands for the end of an array. -/
def addStep (step : String) (value : Json) : Json → Except PatchFault Json
  | .obj fields => .ok (.obj (FiniteMap.insert fields step value))
  | .arr xs =>
    if step = "-" then .ok (.arr (xs ++ [value]))
    else
      match Pointer.index? step with
      | some i =>
        if i ≤ xs.length then .ok (.arr (xs.take i ++ value :: xs.drop i)) else .error .invalidPath
      | none => .error .invalidPath
  | _ => .error .invalidPath

/-- Removes the field or element under `step`. -/
def removeStep (step : String) : Json → Except PatchFault Json
  | .obj fields =>
    if FiniteMap.contains fields step then .ok (.obj (FiniteMap.erase fields step))
    else .error .invalidPath
  | .arr xs =>
    match Pointer.index? step with
    | some i => if i < xs.length then .ok (.arr (xs.eraseIdx i)) else .error .invalidPath
    | none => .error .invalidPath
  | _ => .error .invalidPath

/-- Puts `value` at a pointer. Its parent must exist; at the root it replaces the document. -/
def addAt (doc : Json) (path : Pointer) (value : Json) : Except PatchFault Json :=
  match path.getLast? with
  | none => .ok value
  | some step => modifyAt (addStep step value) path.dropLast doc

/-- Removes what a pointer leads to. The root cannot be removed. -/
def removeAt (doc : Json) (path : Pointer) : Except PatchFault Json :=
  match path.getLast? with
  | none => .error .invalidPath
  | some step => modifyAt (removeStep step) path.dropLast doc

/-- Replaces what a pointer leads to. -/
def replaceAt (doc : Json) (path : Pointer) (value : Json) : Except PatchFault Json :=
  modifyAt (fun _ => .ok value) path doc

end Json

namespace PatchOperation

/-- Where the operation takes effect. -/
def path : PatchOperation → Pointer
  | .add p _ | .remove p | .replace p _ | .move _ p | .copy _ p | .test p _ => p

/-- The document after one operation. -/
def apply (op : PatchOperation) (doc : Json) : Except PatchFault Json :=
  match op with
  | .add p v => doc.addAt p v
  | .remove p => doc.removeAt p
  | .replace p v => doc.replaceAt p v
  | .move source p =>
    if source.isPrefixOf p && source ≠ p then .error .moveIntoItself
    else
      match doc.at? source, doc.removeAt source with
      | some v, .ok rest => rest.addAt p v
      | _, _ => .error .invalidSource
  | .copy source p =>
    match doc.at? source with
    | some v => doc.addAt p v
    | none => .error .invalidSource
  | .test p v =>
    match doc.at? p with
    | some w => if w.sameValue v then .ok doc else .error .testFailed
    | none => .error .invalidPath

/-- An operation as a document. -/
def toJson : PatchOperation → Json
  | .add p v => .object [("op", .str "add"), ("path", .str p.text), ("value", v)]
  | .remove p => .object [("op", .str "remove"), ("path", .str p.text)]
  | .replace p v => .object [("op", .str "replace"), ("path", .str p.text), ("value", v)]
  | .move s p => .object [("op", .str "move"), ("from", .str s.text), ("path", .str p.text)]
  | .copy s p => .object [("op", .str "copy"), ("from", .str s.text), ("path", .str p.text)]
  | .test p v => .object [("op", .str "test"), ("path", .str p.text), ("value", v)]

/-- Reads the pointer that a document writes. -/
def pointer? (j : Json) : Option Pointer :=
  j.text?.bind Pointer.read?

/-- Reads an operation: an object with its name under `op`, or an array with its name in front and
its parts in order. -/
def ofJson? : Json → Option PatchOperation
  | .obj fields => do
    let get (key : String) := FiniteMap.find? fields key
    let at? (key : String) := (get key).bind pointer?
    match ← (get "op").bind Json.text? with
    | "add" => return .add (← at? "path") (← get "value")
    | "remove" => return .remove (← at? "path")
    | "replace" => return .replace (← at? "path") (← get "value")
    | "move" => return .move (← at? "from") (← at? "path")
    | "copy" => return .copy (← at? "from") (← at? "path")
    | "test" => return .test (← at? "path") (← get "value")
    | _ => none
  | .arr [.str "add", p, v] => (pointer? p).map (.add · v)
  | .arr [.str "remove", p] => (pointer? p).map .remove
  | .arr [.str "replace", p, v] => (pointer? p).map (.replace · v)
  | .arr [.str "move", s, p] => do return .move (← pointer? s) (← pointer? p)
  | .arr [.str "copy", s, p] => do return .copy (← pointer? s) (← pointer? p)
  | .arr [.str "test", p, v] => (pointer? p).map (.test · v)
  | _ => none

end PatchOperation

namespace Patch

/-- Runs the operations from position `n` on. -/
def applyFrom (n : Nat) : Patch → Json → Except PatchError Json
  | [], doc => .ok doc
  | op :: ops, doc =>
    match op.apply doc with
    | .ok doc => applyFrom (n + 1) ops doc
    | .error fault => .error ⟨n, op.path, fault⟩

/-- Runs the operations in order; the first that fails makes the whole patch fail. -/
def apply (p : Patch) (doc : Json) : Except PatchError Json :=
  applyFrom 0 p doc

/-- A patch as a document. -/
def toJson (p : Patch) : Json :=
  .arr (p.map PatchOperation.toJson)

/-- Reads a patch: an array of operations. -/
def ofJson? : Json → Option Patch
  | .arr ops => ops.mapM PatchOperation.ofJson?
  | _ => none

end Patch

end Slumber
