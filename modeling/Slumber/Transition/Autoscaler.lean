import Slumber.Transition.Replicas

/-!
# Autoscalers

An autoscaler that governs a workload would undo any change of its replicas, so the autoscaler is
scaled in its place. `AutoscalerIndex` keeps the autoscalers of the namespaces that have been asked
for, so that each namespace is listed at most once in a run.
-/

namespace Slumber

/-- Whether an autoscaler scales an object: its target has the kind and name of the object and, if
it gives an interface version, the group. -/
def governs (autoscaler target : Manifest) : Bool :=
  match autoscaler.scaleTarget? with
  | none => false
  | some t =>
    let group := (ObjectKind.ofApiVersion t.apiVersion t.kind).group
    (t.apiVersion == "" || group == target.objectKind.group)
      && autoscaler.namespaceName == target.namespaceName && t.kind == target.kind
      && t.name == target.name

/-- What is known of autoscalers: their type, once it was asked for, and the autoscalers of some
namespaces. -/
structure AutoscalerIndex where
  type : Option (Option ResourceType) := none
  known : FiniteMap String (List Manifest) := []

namespace AutoscalerIndex

variable {σ : Type} [ResourceClient σ]

/-- The type of autoscalers, asked for at most once. -/
def typeOf (i : AutoscalerIndex) : StateM σ (Option ResourceType × AutoscalerIndex) := do
  match i.type with
  | some t => return (t, i)
  | none =>
    let t := (← ResourceClient.resolveType "hpa").toOption
    return (t, { i with type := some t })

/-- The autoscalers of a namespace, listed at most once. A refused listing counts as empty. -/
def autoscalersIn (i : AutoscalerIndex) (namespaceName : String) :
    StateM σ (List Manifest × AutoscalerIndex) := do
  match i.known.find? namespaceName with
  | some found => return (found, i)
  | none =>
    let (type, i) ← i.typeOf
    let found ←
      match type with
      | none => pure []
      | some t => do
        pure ((← ResourceClient.list (some namespaceName) t none).toOption.getD [])
    return (found, { i with known := i.known.insert namespaceName found })

/-- The object to scale in the place of another: the first autoscaler that governs it, or itself. -/
def scalingObject (i : AutoscalerIndex) (target : Manifest) :
    StateM σ (Manifest × AutoscalerIndex) := do
  if target.isAutoscaler ∨ target.namespaceName = "" then return (target, i)
  let (found, i) ← i.autoscalersIn target.namespaceName
  return ((found.find? (governs · target)).getD target, i)

end AutoscalerIndex

end Slumber
