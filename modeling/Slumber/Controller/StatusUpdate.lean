import Slumber.ApiServer.Connection
import Slumber.Controller.Reconcile

/-!
# Storing statuses on a server

`Hibernator.ofJson?` reads a resource as a server knows it. `Connection.storeStatus` sends the
status of a resource as a merge patch of the part of the resource that holds the status; the version
that was observed goes along, so that a resource that has changed since is not overwritten.
-/

namespace Slumber

namespace Hibernator

/-- Reads a resource. A name that is still to be completed counts if there is no other. -/
def ofJson? (j : Json) : Option Hibernator := do
  let r ← j.record? ["metadata", "spec", "status"]
  let metadata ← r.part? "metadata" Metadata.plain?
  let part (name : String) : Option String := (metadata.field? name).bind Json.text?
  return {
    namespaceName := (part "namespace").getD ""
    name := (part "name" <|> part "generateName").getD ""
    resourceVersion := part "resourceVersion"
    isDeleting := (metadata.field? "deletionTimestamp").isSome
    spec := ← r.part? "spec" Spec.ofJson?
    status := ← r.partOr "status" none (Json.nullable? Status.ofJson?) }

/-- The kind of the resource. -/
def objectKind : ObjectKind :=
  ⟨resourceGroup, Slumber.resourceVersion, resourceKind⟩

/-- The path of the resources in a namespace. -/
def path (namespaceName : String) : String :=
  objectKind.interfacePath ++ "namespaces/" ++ namespaceName ++ "/" ++ resourcePlural

/-- The patch that gives the resource a status. -/
def statusPatch (h : Hibernator) (s : Status) : Json :=
  .object
    [("metadata", .object [("resourceVersion", h.resourceVersion.elim .null .str)]),
     ("status", s.toJson)]

end Hibernator

namespace Connection

/-- Stores the status of a resource. -/
def storeStatus : StatusWriter Connection := fun h s => do
  let reply ← requestObject .patch (Hibernator.path h.namespaceName) h.name "/status?"
    (some ⟨mergePatchType, h.statusPatch s⟩) Hibernator.ofJson?
  match reply with
  | .ok _ => return .ok ()
  | .error e =>
    let cause : StatusCause :=
      match e with
      | .api code reason => .refused code reason
      | other => .other other.message
    return .error ⟨h.namespaceName ++ "/" ++ h.name, cause⟩

end Connection

end Slumber
