import Slumber.Resource.Client
import Slumber.Status.Basic

/-!
# Changing the number of replicas

The number of replicas stands in one field of an object: the least number for an autoscaler, and the
number itself for any other. `replicaPatch?` sets it to a target, and notes in an annotation how
many there were when an object is first scaled. `scaleReplicas` applies that patch; a failure is
recorded with the object.
-/

namespace Slumber

open Slumber.Decimal

/-- The annotation that keeps how many replicas an object had. -/
def replicasAnnotationKey : String := "hibernator.devtron.ai/replicas"

/-- The kind of autoscalers. -/
def autoscalerKind : String := "HorizontalPodAutoscaler"

/-- The place of the annotations. -/
def annotationsPath : Pointer := ["metadata", "annotations"]

/-- The place of the annotation that keeps how many replicas an object had. -/
def annotationPath : Pointer := annotationsPath ++ [replicasAnnotationKey]

namespace Manifest

/-- Whether the object is an autoscaler. -/
def isAutoscaler (m : Manifest) : Bool :=
  m.kind = autoscalerKind

/-- The place of the number of replicas. -/
def replicaPath (m : Manifest) : Pointer :=
  if m.isAutoscaler then ["spec", "minReplicas"] else ["spec", "replicas"]

/-- The number of replicas, if the object has one. -/
def replicaCount? (m : Manifest) : Option Int :=
  if m.isAutoscaler then m.minReplicas else m.replicas

/-- The number of replicas that the annotation keeps, if it is a number. -/
def annotatedCount? (m : Manifest) : Option Int32 :=
  (m.annotation? replicasAnnotationKey).bind fun s =>
    match readSigned maxSigned32 (Text.trimChars s.toList) with
    | .ok i => some (Int32.ofInt i)
    | .error _ => none

end Manifest

/-- The patch that scales an object, and the number of replicas from before: the annotated one if
there is an annotation, else the present one. An object without a number of replicas, or with the
right one, needs none. -/
def replicaPatch? (m : Manifest) (target : Int32) : Option (Patch × Int32) :=
  match m.replicaCount? with
  | none => none
  | some count =>
    if count = target.toInt then none
    else
      let current := Int32.ofInt (clamp32 count)
      let change : PatchOperation := .replace m.replicaPath (.ofWord32 target)
      match m.annotation? replicasAnnotationKey with
      | some _ => some ([change], m.annotatedCount?.getD current)
      | none =>
        let value : Json := .str (toString current.toInt)
        let note : PatchOperation :=
          if m.annotations?.isSome then .add annotationPath value
          else .add annotationsPath (.obj [(replicasAnnotationKey, value)])
        some ([change, note], current)

section

variable {σ : Type} [ResourceClient σ]

/-- Applies a patch to an object and records a failure. -/
def patchObject (m : Manifest) (patch : Json) (flavour : PatchKind) (impacted : ImpactedObject) :
    StateM σ ImpactedObject := do
  match ← ResourceClient.patch m.namespaceName m.objectKind m.name patch flavour with
  | .ok _ => return impacted
  | .error e => return { impacted with status := .error, message := e.message }

/-- Scales an object, if it needs that. -/
def scaleReplicas (m : Manifest) (target : Int32) : StateM σ (Option ImpactedObject) :=
  match replicaPatch? m target with
  | none => pure none
  | some (patch, before) =>
    some <$> patchObject m patch.toJson .json { key := m.key.text, countBefore := before }

end

end Slumber
