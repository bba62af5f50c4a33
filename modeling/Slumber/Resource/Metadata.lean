import Slumber.Json.Record
import Slumber.Time.Reading

/-!
# The metadata of objects

The metadata of an object as a server answers it are brought into a plain form: `Metadata.plain?`
keeps the parts that are known, leaves out those that are `null`, writes times in Universal Time to
the second, and refuses a part of the wrong kind.
-/

namespace Slumber

namespace Metadata

open Json

/-- Brings a document into its plain form, if it is of the right kind. -/
abbrev Plain := Json → Option Json

/-- A text. -/
def plainText : Plain
  | .str s => some (.str s)
  | _ => none

/-- A truth value. -/
def plainBool : Plain
  | .bool b => some (.bool b)
  | _ => none

/-- A whole number of 64 signed bits. -/
def plainWhole (j : Json) : Option Json :=
  j.int64?.map Json.int

/-- An instant to the second; a leap second stays one. -/
def plainTime (j : Json) : Option Json := do
  let t ← j.text?.bind Instant.readRelaxed?
  return .str (Instant.text ⟨t.seconds, if t.isLeap then 1000000000 else 0⟩)

/-- An array of values of one kind. -/
def plainList (plain : Plain) (j : Json) : Option Json :=
  (list? plain j).map .arr

/-- An object whose fields are texts. -/
def plainTexts (j : Json) : Option Json :=
  (map? plainText j).map .obj

/-- An object with some known parts, each of which may be left out. Of the parts named in `always`
an empty text is written when they are. -/
def plainRecord (parts : List (String × Plain)) (always : List String) : Plain
  | .obj fields => do
    let known ← parts.mapM fun (name, plain) =>
      match FiniteMap.find? fields name with
      | none | some .null =>
        some (if name ∈ always then some (name, Json.str "") else none)
      | some j => (plain j).map fun p => some (name, p)
    return .object (known.filterMap id)
  | _ => none

/-- A note on who owns an object. -/
def plainOwner : Plain :=
  plainRecord
    [("apiVersion", plainText), ("blockOwnerDeletion", plainBool), ("controller", plainBool),
     ("kind", plainText), ("name", plainText), ("uid", plainText)]
    ["apiVersion", "kind", "name", "uid"]

/-- A note on who manages which fields of an object. -/
def plainManager : Plain :=
  plainRecord
    [("apiVersion", plainText), ("fieldsType", plainText), ("fieldsV1", some),
     ("manager", plainText), ("operation", plainText), ("subresource", plainText),
     ("time", plainTime)]
    []

/-- The plain form of the metadata of an object. -/
def plain? : Plain :=
  plainRecord
    [("annotations", plainTexts), ("creationTimestamp", plainTime),
     ("deletionGracePeriodSeconds", plainWhole), ("deletionTimestamp", plainTime),
     ("finalizers", plainList plainText), ("generateName", plainText),
     ("generation", plainWhole), ("labels", plainTexts),
     ("managedFields", plainList plainManager), ("name", plainText), ("namespace", plainText),
     ("ownerReferences", plainList plainOwner), ("resourceVersion", plainText),
     ("selfLink", plainText), ("uid", plainText)]
    []

/-- The plain form of the metadata of a listing. -/
def plainListing? : Plain :=
  plainRecord
    [("continue", plainText), ("remainingItemCount", plainWhole), ("resourceVersion", plainText),
     ("selfLink", plainText)]
    []

end Metadata

end Slumber
