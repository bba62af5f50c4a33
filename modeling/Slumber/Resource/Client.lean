import Slumber.Json.Patch
import Slumber.Resource.Manifest

/-!
# Access to a cluster

`ResourceClient σ` is what is needed of a cluster whose state is `σ`: to find the type of a name, to
list, get, change and delete objects. Every operation may change the state, also one that fails.
`ResourceError` says why an operation failed.
-/

namespace Slumber

/-- How a patch is to be applied. -/
inductive PatchKind where
  | json | merge | strategic
deriving DecidableEq, Repr

/-- Why an operation on a cluster failed. -/
inductive ResourceError where
  /-- The object does not exist. -/
  | notFound (what : String)
  /-- The cluster serves no such type. -/
  | unknownType (name : String)
  /-- The patch was refused. -/
  | invalidPatch (reason : String)
  /-- The patch is no list of operations. -/
  | malformedPatch
  /-- The server answered with an error. -/
  | api (code : Nat) (reason : String)
  /-- The server gave no proper answer. -/
  | transport
deriving DecidableEq, Repr

/-- The wording of each error. -/
def ResourceError.message : ResourceError → String
  | .notFound what => "Not found: " ++ what
  | .unknownType name => "Unknown resource type: " ++ name
  | .invalidPatch reason => "Invalid patch: " ++ reason
  | .malformedPatch => "Invalid patch: not a list of operations"
  | .api code reason => "Kubernetes API error: " ++ toString code ++ " " ++ reason
  | .transport => "Kubernetes API error: no proper answer"

/-- The reply of a cluster. -/
abbrev Reply (α : Type) := Except ResourceError α

/-- The operations on a cluster with state `σ`. A namespace is passed over for types of the whole
cluster. -/
class ResourceClient (σ : Type) where
  /-- The type that a user's name for it means. -/
  resolveType : (name : String) → StateM σ (Reply ResourceType)
  /-- The objects of a type, in one namespace or in all, that a label selector selects. -/
  list : (namespaceName : Option String) → (type : ResourceType) → (labels : Option String) →
    StateM σ (Reply (List Manifest))
  /-- One object. -/
  get : (namespaceName : String) → (kind : ObjectKind) → (name : String) → StateM σ (Reply Manifest)
  /-- Changes an object and gives it as it is then. -/
  patch : (namespaceName : String) → (kind : ObjectKind) → (name : String) → (patch : Json) →
    (flavour : PatchKind) → StateM σ (Reply Manifest)
  /-- Deletes an object and gives it as it was; `force` leaves it no time to end. -/
  delete : (namespaceName : String) → (kind : ObjectKind) → (name : String) → (force : Bool) →
    StateM σ (Reply Manifest)

end Slumber
