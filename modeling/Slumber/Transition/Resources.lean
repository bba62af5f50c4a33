import Slumber.Expression.Quantity
import Slumber.Spec.Document
import Slumber.Transition.Replicas

/-!
# Changing the resources of containers

Targets name containers and the quantities that each is to ask for and be limited to.
`resourcesPatch?` is the patch for the containers of which some quantity differs from its target,
and leaves all others alone.
-/

namespace Slumber

open Slumber.Expression

/-- The quantity of a resource in a section of a container. -/
def quantityOf? (container : Json) (part resource : String) : Option String :=
  (((container.field? "resources").bind (·.field? part)).bind (·.field? resource)).bind Json.text?

/-- Whether a section of a container lacks one of the wanted quantities. -/
def partDiffers (container : Json) (part : String) (wanted : FiniteMap String String) : Bool :=
  wanted.any fun (resource, quantity) =>
    match quantityOf? container part resource with
    | some current => !Quantity.same current quantity
    | none => true

/-- Whether a container lacks one of the wanted quantities. -/
def resourcesDiffer (container : Json) (wanted : ContainerResources) : Bool :=
  partDiffers container "requests" wanted.requests || partDiffers container "limits" wanted.limits

/-- The change of a container, if it has a target and differs from it. -/
def containerChange? (targets : FiniteMap String ContainerResources) (container : Json) :
    Option Json := do
  let name ← (container.field? "name").bind Json.text?
  let wanted ← targets.find? name
  if resourcesDiffer container wanted then
    return .object [("name", .str name), ("resources", wanted.toJson)]
  else none

/-- The strategic merge that gives containers their target resources. -/
def resourcesPatch? (m : Manifest) (targets : FiniteMap String ContainerResources) : Option Json :=
  match m.containers.filterMap (containerChange? targets) with
  | [] => none
  | changed => some (.object [("spec", .object [("containers", .arr changed)])])

/-- Gives the containers of an object their target resources, if it needs that. -/
def scaleResources {σ : Type} [ResourceClient σ] (m : Manifest)
    (targets : FiniteMap String ContainerResources) : StateM σ (Option ImpactedObject) :=
  match resourcesPatch? m targets with
  | none => pure none
  | some patch => some <$> patchObject m patch .strategic { key := m.key.text }

end Slumber
