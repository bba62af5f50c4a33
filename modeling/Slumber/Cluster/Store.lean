import Slumber.Cluster.Labels
import Slumber.Json.Merge
import Slumber.Resource.Client

/-!
# A cluster in memory

A `Cluster` holds objects under their keys and applies patches to them as a server would. It keeps a
record of the patches it received and of the objects it deleted, and can be told to refuse patches
of an object or listings of a kind. `Cluster.standard` serves the usual workloads.
-/

namespace Slumber

/-- A patch that was received. -/
structure ReceivedPatch where
  key : ObjectKey
  patch : Json
  flavour : PatchKind
deriving DecidableEq

/-- A cluster: the types it serves, its objects, what was done to them, and what it refuses.
What is refused is kept with the reason: patches under the text of the object's key, listings under
the namespace, which is empty for all of them, and the kind with a slash between. -/
structure Cluster where
  types : List ResourceType := []
  objects : FiniteMap ObjectKey Manifest := []
  patches : List ReceivedPatch := []
  deletions : List ObjectKey := []
  refusedPatches : FiniteMap String String := []
  refusedLists : FiniteMap String String := []

namespace Cluster

/-- A type that lives in namespaces, unless `namespaced` says otherwise. -/
def served (group version kind plural : String) (namespaced : Bool := true) : ResourceType :=
  ⟨⟨group, version, kind⟩, plural, namespaced⟩

/-- A cluster without objects that serves the usual types. -/
def standard : Cluster :=
  { types :=
      [served "apps" "v1" "Deployment" "deployments",
       served "apps" "v1" "StatefulSet" "statefulsets",
       served "" "v1" "Pod" "pods",
       served "" "v1" "Namespace" "namespaces" false,
       served "autoscaling" "v2" "HorizontalPodAutoscaler" "horizontalpodautoscalers",
       served "argoproj.io" "v1alpha1" "Rollout" "rollouts"] }

/-- Serves one more type. -/
def register (c : Cluster) (t : ResourceType) : Cluster :=
  { c with types := c.types ++ [t] }

/-- Holds one more object. -/
def insert (c : Cluster) (m : Manifest) : Cluster :=
  { c with objects := c.objects.insert m.key m }

/-- Refuses patches of an object. -/
def refusePatch (c : Cluster) (key reason : String) : Cluster :=
  { c with refusedPatches := c.refusedPatches.insert key reason }

/-- Refuses listings of a kind in a namespace. -/
def refuseList (c : Cluster) (namespaceName kind : String) : Cluster :=
  let reason := "list " ++ kind ++ " in " ++ namespaceName ++ " refused"
  { c with refusedLists := c.refusedLists.insert (namespaceName ++ "/" ++ kind) reason }

/-- The object of a key. -/
def object? (c : Cluster) (key : ObjectKey) : Option Manifest :=
  c.objects.find? key

/-- The type that a name means: the first whose plural or kind it is, in the wanted group. -/
def findType? (c : Cluster) (name : String) : Option ResourceType :=
  let wanted := TypeName.ofText name
  c.types.find? fun t => wanted.wantsGroup t.kind.group && wanted.names t.plural t.kind.kind

/-- The key of an object of a kind. Kinds that are not served count as living in namespaces. -/
def keyOf (c : Cluster) (namespaceName : String) (kind : ObjectKind) (name : String) : ObjectKey :=
  let type := c.types.find? fun t => t.kind.group = kind.group ∧ t.kind.kind = kind.kind
  let namespaced := (type.map (·.namespaced)).getD true
  ⟨if namespaced then namespaceName else "", kind.group, kind.version, kind.kind, name⟩

/-- The objects of a type in a namespace, or in all, that a label selector selects, in the order of
their keys. -/
def select (c : Cluster) (namespaceName : Option String) (type : ResourceType)
    (labels : Option String) : List Manifest :=
  let isMeant (key : ObjectKey) (m : Manifest) : Bool :=
    key.group == type.kind.group && key.kind == type.kind.kind
      && (!type.namespaced || namespaceName.all (· == key.namespaceName))
      && labels.all (LabelSelector.selects · m.labels)
  (c.objects.filter fun (key, m) => isMeant key m).map (·.2)

/-- Lists objects, unless that is refused. -/
def list (c : Cluster) (namespaceName : Option String) (type : ResourceType)
    (labels : Option String) : Reply (List Manifest) :=
  match c.refusedLists.find? (namespaceName.getD "" ++ "/" ++ type.kind.kind) with
  | some reason => .error (.notFound reason)
  | none => .ok (c.select namespaceName type labels)

/-- The document after a patch. -/
def applyPatch (document patch : Json) (flavour : PatchKind) : Reply Json :=
  match flavour with
  | .json =>
    match Patch.ofJson? patch with
    | none => .error .malformedPatch
    | some p =>
      match p.apply document with
      | .ok d => .ok d
      | .error e => .error (.invalidPatch e.message)
  | .merge => .ok (document.mergePatch patch)
  | .strategic => .ok (document.strategicMerge patch)

/-- What a patch makes of the object of a key: its manifest, unless the patch is refused, the object
is not there, or the patch does not apply. -/
def patched (c : Cluster) (key : ObjectKey) (patch : Json) (flavour : PatchKind) : Reply Manifest :=
  match c.refusedPatches.find? key.text with
  | some reason => .error (.invalidPatch reason)
  | none =>
    match c.object? key with
    | none => .error (.notFound key.text)
    | some m => (applyPatch m.document patch flavour).map Manifest.mk

/-- Records a patch and applies it. A patch that fails leaves the object as it was. -/
def patch (c : Cluster) (key : ObjectKey) (patch : Json) (flavour : PatchKind) :
    Reply Manifest × Cluster :=
  let c := { c with patches := c.patches ++ [(⟨key, patch, flavour⟩ : ReceivedPatch)] }
  match c.patched key patch flavour with
  | .ok m => (.ok m, { c with objects := c.objects.insert key m })
  | .error e => (.error e, c)

/-- Removes an object and records that. -/
def delete (c : Cluster) (key : ObjectKey) : Reply Manifest × Cluster :=
  match c.object? key with
  | none => (.error (.notFound key.text), c)
  | some m =>
    (.ok m, { c with objects := c.objects.erase key, deletions := c.deletions ++ [key] })

instance : ResourceClient Cluster where
  resolveType name c :=
    match c.findType? name with
    | some t => (.ok t, c)
    | none => (.error (.unknownType name), c)
  list namespaceName type labels c := (c.list namespaceName type labels, c)
  get namespaceName kind name c :=
    let key := c.keyOf namespaceName kind name
    match c.object? key with
    | some m => (.ok m, c)
    | none => (.error (.notFound key.text), c)
  patch namespaceName kind name p flavour c := c.patch (c.keyOf namespaceName kind name) p flavour
  delete namespaceName kind name _ c := c.delete (c.keyOf namespaceName kind name)

end Cluster

end Slumber
