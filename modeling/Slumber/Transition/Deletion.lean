import Slumber.Json.Printer
import Slumber.Resource.Client
import Slumber.Status.Basic

/-!
# Deleting objects

A deleted object gets no time to end. Its last manifest is kept in the record if that is wanted, so
that the object can be made again.
-/

namespace Slumber

/-- Deletes an object; `store` keeps its last manifest in the record. -/
def deleteObject {σ : Type} [ResourceClient σ] (m : Manifest) (store : Bool) :
    StateM σ ImpactedObject := do
  let record : ImpactedObject := { key := m.key.text }
  match ← ResourceClient.delete m.namespaceName m.objectKind m.name true with
  | .ok last => return if store then { record with deleted := last.document.render } else record
  | .error e => return { record with status := .error, message := e.message }

end Slumber
