import Slumber.Status.History
import Slumber.Transition.Replicas

/-!
# Waking objects up

An object is restored to the number of replicas that its annotation keeps, or else the history. The
annotation goes away in the same patch. An object that has the number already only loses its
annotation, and one for which no positive number is known is left alone.
-/

namespace Slumber

/-- Why an object is left alone whose number of replicas from before is not known. -/
def unknownCountBefore : String := "error determining original count"

/-- What happened to an object that was to be woken up. -/
inductive RestoreOutcome where
  | restored (o : ImpactedObject)
  | skipped
  | excluded (o : ExcludedObject)
deriving DecidableEq, Repr

/-- The number of replicas that an object is restored to, by its annotation or the history. -/
def restoreCount? (m : Manifest) (h : History) : Option Int32 :=
  (m.annotatedCount? <|> h.countBefore? m.key.text).filter fun n => 0 < n.toInt

/-- Restores an object. -/
def restoreObject {σ : Type} [ResourceClient σ] (m : Manifest) (h : History) :
    StateM σ RestoreOutcome := do
  match m.replicaCount? with
  | none => return .skipped
  | some current =>
    let cleanup : Patch :=
      if (m.annotation? replicasAnnotationKey).isSome then [.remove annotationPath] else []
    match restoreCount? m h with
    | none => return .excluded ⟨m.key.text, unknownCountBefore⟩
    | some count =>
      if current = count.toInt then
        if !cleanup.isEmpty then
          let _ ← ResourceClient.patch m.namespaceName m.objectKind m.name cleanup.toJson .json
        return .skipped
      else
        let patch : Patch := .replace m.replicaPath (.ofWord32 count) :: cleanup
        return .restored
          (← patchObject m patch.toJson .json { key := m.key.text, countBefore := count })

end Slumber
