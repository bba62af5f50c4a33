import Slumber.Json.Pointer
import Slumber.Json.Record
import Slumber.Resource.Key

/-!
# Manifests

A manifest is the document of an object. The parts that matter here are read with `Manifest.name`,
`Manifest.replicas` and the like. A missing text is read as the empty one, a missing count as none.
-/

namespace Slumber

/-- The document of an object. -/
structure Manifest where
  document : Json
deriving DecidableEq

/-- The object that an autoscaler scales. -/
structure ScaleTarget where
  apiVersion : String
  kind : String
  name : String
deriving DecidableEq, Repr

/-- Reads the target of an autoscaler. -/
def ScaleTarget.ofJson? (j : Json) : Option ScaleTarget := do
  let r ← j.record? ["apiVersion", "kind", "name"]
  return {
    apiVersion := ← r.partOr "apiVersion" "" Json.text?
    kind := ← r.part? "kind" Json.text?
    name := ← r.part? "name" Json.text? }

namespace Manifest

/-- The text at a pointer, or the empty text. -/
def textAt (m : Manifest) (p : Pointer) : String :=
  ((m.document.at? p).bind Json.text?).getD ""

/-- The version of the interface. -/
def apiVersion (m : Manifest) : String :=
  m.textAt ["apiVersion"]

/-- The kind of the object. -/
def kind (m : Manifest) : String :=
  m.textAt ["kind"]

/-- The name of the object. -/
def name (m : Manifest) : String :=
  m.textAt ["metadata", "name"]

/-- The namespace of the object, empty for objects of the whole cluster. -/
def namespaceName (m : Manifest) : String :=
  m.textAt ["metadata", "namespace"]

/-- The labels whose values are texts. -/
def labels (m : Manifest) : FiniteMap String String :=
  match m.document.at? ["metadata", "labels"] with
  | some (.obj fields) => fields.filterMap fun (k, v) => v.text?.map fun s => (k, s)
  | _ => []

/-- The annotations. -/
def annotations? (m : Manifest) : Option Json :=
  (m.document.at? ["metadata", "annotations"]).filter Json.isObject

/-- The text of an annotation. -/
def annotation? (m : Manifest) (key : String) : Option String :=
  (m.annotations?.bind (·.field? key)).bind Json.text?

/-- The kind of the object with group and version. -/
def objectKind (m : Manifest) : ObjectKind :=
  .ofApiVersion m.apiVersion m.kind

/-- The key of the object. -/
def key (m : Manifest) : ObjectKey :=
  let k := m.objectKind
  ⟨m.namespaceName, k.group, k.version, k.kind, m.name⟩

/-- The number of replicas. -/
def replicas (m : Manifest) : Option Int :=
  (m.document.at? ["spec", "replicas"]).bind Json.int64?

/-- The least number of replicas of an autoscaler. -/
def minReplicas (m : Manifest) : Option Int :=
  (m.document.at? ["spec", "minReplicas"]).bind Json.int64?

/-- The object that an autoscaler scales. -/
def scaleTarget? (m : Manifest) : Option ScaleTarget :=
  (m.document.at? ["spec", "scaleTargetRef"]).bind ScaleTarget.ofJson?

/-- The containers of a pod. -/
def containers (m : Manifest) : List Json :=
  ((m.document.at? ["spec", "containers"]).bind Json.elements?).getD []

end Manifest

end Slumber
