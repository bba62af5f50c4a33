import Slumber.Json.Reader
import Slumber.Resource.Client
import Slumber.Resource.Metadata

/-!
# Answers of a server

A server answers with a code and a text. A code from 400 to 599 tells of a failure, whose code and
reason stand in the text if it is a document of the right form. Other answers hold an object, a
listing of objects, or a note on a deletion. `Manifest.answered?` is how an object is taken from an
answer: its metadata are brought into their plain form, and the version and the kind, which listings
leave out, are filled in.
-/

namespace Slumber

open Json

/-- An answer of a server. -/
structure Response where
  code : Nat := 200
  text : String
deriving DecidableEq, Repr

/-- A whole number of 16 bits. -/
def Json.code? : Json → Option Nat
  | .int i => if 0 ≤ i ∧ i < 0x10000 then some i.toNat else none
  | _ => none

/-- A whole number of 32 bits without a sign. -/
def Json.count? : Json → Option Nat
  | .int i => if 0 ≤ i ∧ i < 0x100000000 then some i.toNat else none
  | _ => none

/-- What a failed request comes to. -/
structure ServerFailure where
  code : Nat
  reason : String
deriving DecidableEq, Repr

/-- Reads the document of a failure. -/
def ServerFailure.ofJson? (j : Json) : Option ServerFailure := do
  let r ← j.record? ["status", "message", "reason", "code"]
  let _ ← r.part? "status" text?
  let _ ← r.partOr "message" "" text?
  return { reason := ← r.partOr "reason" "" text?, code := ← r.part? "code" code? }

/-- The fields of an object without a version and a kind that are not both texts. A version that is
no text leaves the kind in place. -/
def typedFields (fields : FiniteMap String Json) : FiniteMap String Json :=
  match fields.find? "apiVersion", fields.find? "kind" with
  | some (.str _), some (.str _) => fields
  | none, _ | some (.str _), _ => (fields.erase "apiVersion").erase "kind"
  | some _, _ => fields.erase "apiVersion"

/-- A field that is set only if it is not there yet. -/
def fieldOr (fields : FiniteMap String Json) (name value : String) : FiniteMap String Json :=
  if fields.contains name then fields else fields.insert name (.str value)

/-- The object of a kind that a document of an answer holds. -/
def Manifest.answered? (kind : ObjectKind) (j : Json) : Option Manifest := do
  let fields := typedFields (← j.fields?)
  let metadata ← Metadata.plain? ((fields.find? "metadata").getD (.obj []))
  let whole := fields.insert "metadata" metadata
  return ⟨.obj (fieldOr (fieldOr whole "apiVersion" kind.apiVersion) "kind" kind.kind)⟩

/-- The objects of a kind that the document of a listing holds. -/
def Manifest.listed? (kind : ObjectKind) (j : Json) : Option (List Manifest) := do
  let fields ← j.fields?
  let _ ← Metadata.plainListing? ((fields.find? "metadata").getD (.obj []))
  match ← fields.find? "items" with
  | .null => return []
  | items => items.elements?.bind (·.mapM (Manifest.answered? kind))

/-- Whether a document is a well-formed note on what became of a request. -/
def isOutcome (j : Json) : Bool :=
  let cause (c : Json) : Option Unit := do
    let r ← c.record? ["reason", "message", "field"]
    let _ ← ["reason", "message", "field"].mapM fun part => r.partOr part "" text?
  let details (d : Json) : Option Unit := do
    let r ← d.record? ["name", "group", "kind", "uid", "causes", "retryAfterSeconds"]
    let _ ← ["name", "group", "kind", "uid"].mapM fun part => r.partOr part "" text?
    let _ ← r.partOr "causes" [] (list? cause)
    let _ ← r.partOr "retryAfterSeconds" 0 count?
  let outcome : Option Unit := do
    let r ← j.record? ["status", "code", "message", "reason", "details"]
    let _ ← r.partOr "status" none (nullable? (word? [("Success", true), ("Failure", false)]))
    let _ ← r.partOr "code" 0 code?
    let _ ← ["message", "reason"].mapM fun part => r.partOr part "" text?
    let _ ← r.partOr "details" none (nullable? details)
  outcome.isSome

/-- Whether a document may be the answer to a deletion: a note on it, or the object. -/
def isDeletion (j : Json) : Bool :=
  if j.field? "kind" = some (.str "Status") then isOutcome j
  else (Manifest.answered? ⟨"", "", ""⟩ j).isSome

namespace Response

/-- The reason given for a failure that the server does not explain properly. -/
def unexplained : String := "Failed to parse error data"

/-- Whether the answer tells of a failure. -/
def isFailure (r : Response) : Bool :=
  400 ≤ r.code && r.code < 600

/-- The failure that an answer tells of. -/
def failure (r : Response) : ServerFailure :=
  ((Json.read? r.text).bind ServerFailure.ofJson?).getD ⟨r.code, unexplained⟩

/-- What an answer holds, if it tells of no failure and is well-formed. -/
def read {α : Type} (r : Response) (ofDocument? : Json → Option α) : Reply α :=
  if r.isFailure then .error (.api r.failure.code r.failure.reason)
  else
    match (Json.read? r.text).bind ofDocument? with
    | some a => .ok a
    | none => .error .transport

end Response

end Slumber
