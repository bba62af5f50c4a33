import Slumber.ApiServer.Server

/-!
# A connection to a server

A `Connection` gives access to the cluster behind a server. It remembers what the server served when
it was last asked, and asks again once whenever a type is wanted that it does not know, so that
types which are installed later are found. Every operation asks at most once. Listings take the type
as it is given and need no such knowledge.
-/

namespace Slumber

/-- A server and what was last learnt of what it serves. -/
structure Connection where
  server : Server
  known : Discovery
deriving DecidableEq

namespace Connection

/-- Connects to a server that tells what it serves. -/
def connect : StateM Server (Reply Connection) := fun s =>
  match Server.discover s with
  | (some known, s) => (.ok { server := s, known }, s)
  | (none, s) => (.error .transport, s)

/-- Asks the server what it serves. What was known stays so if there is no proper answer. -/
def refresh : StateM Connection (Reply Unit) := fun c =>
  match Server.discover c.server with
  | (some known, server) => (.ok (), { server, known })
  | (none, server) => (.error .transport, { c with server })

/-- Looks something up in what is known, and again after asking the server if that fails. `name` is
what was looked for. -/
def lookUp {α : Type} (find? : Discovery → Option α) (name : String) :
    StateM Connection (Reply α) := fun c =>
  match find? c.known with
  | some a => (.ok a, c)
  | none =>
    match refresh c with
    | (.error e, c) => (.error e, c)
    | (.ok (), c) =>
      match find? c.known with
      | some a => (.ok a, c)
      | none => (.error (.unknownType name), c)

/-- The type that a user's name for it means. -/
def resolveType (name : String) : StateM Connection (Reply ResourceType) :=
  lookUp (·.findType? name) name

/-- The type of a kind. -/
def typeOf (kind : ObjectKind) : StateM Connection (Reply ResourceType) :=
  lookUp (·.typeOf? kind) kind.text

/-- Sends a request for a target and reads the answer. A target that is none is not sent. -/
def request {α : Type} (method : Method) (target : String) (content : Option Content)
    (ofDocument? : Json → Option α) : StateM Connection (Reply α) := fun c =>
  match Target.read? target with
  | none => (.error .transport, c)
  | some target =>
    let (response, server) := Server.send { method, target, content } c.server
    (response.read ofDocument?, { c with server })

/-- Sends a request for one object, which must have a name. -/
def requestObject {α : Type} (method : Method) (path name ending : String)
    (content : Option Content) (ofDocument? : Json → Option α) : StateM Connection (Reply α) :=
  if name = "" then pure (.error .transport)
  else request method (path ++ "/" ++ name ++ ending) content ofDocument?

/-- The objects of a type in a namespace, or in all, that a label selector selects. -/
def list (namespaceName : Option String) (type : ResourceType) (labels : Option String) :
    StateM Connection (Reply (List Manifest)) :=
  let query :=
    match labels.filter (· ≠ "") with
    | some l => "labelSelector=" ++ Text.formEncoded l
    | none => ""
  request .get (type.path (namespaceName.getD "") ++ "?" ++ query) none (Manifest.listed? type.kind)

/-- The object of a type and a name. -/
def find (namespaceName : String) (type : ResourceType) (name : String) :
    StateM Connection (Reply Manifest) := do
  match ← requestObject .get (type.path namespaceName) name "" none
      (Manifest.answered? type.kind) with
  | .error (.api _ "NotFound") =>
    return .error (.notFound (type.kind.text ++ " " ++ namespaceName ++ "/" ++ name))
  | reply => return reply

/-- One object. -/
def get (namespaceName : String) (kind : ObjectKind) (name : String) :
    StateM Connection (Reply Manifest) := do
  match ← typeOf kind with
  | .error e => return .error e
  | .ok type => find namespaceName type name

/-- The notation of a merge patch. -/
def mergePatchType : String := "application/merge-patch+json"

/-- A patch as it is sent, if it is well-formed. -/
def patchContent? (patch : Json) : PatchKind → Option Content
  | .json => (Patch.ofJson? patch).map fun p => ⟨"application/json-patch+json", p.toJson⟩
  | .merge => some ⟨mergePatchType, patch⟩
  | .strategic => some ⟨"application/strategic-merge-patch+json", patch⟩

/-- Changes an object. -/
def patch (namespaceName : String) (kind : ObjectKind) (name : String) (patch : Json)
    (flavour : PatchKind) : StateM Connection (Reply Manifest) := do
  match ← typeOf kind with
  | .error e => return .error e
  | .ok type =>
    match patchContent? patch flavour with
    | none => return .error .malformedPatch
    | some content =>
      requestObject .patch (type.path namespaceName) name "?" (some content)
        (Manifest.answered? type.kind)

/-- How a deletion is to go on. -/
def deletionContent (force : Bool) : Content :=
  ⟨"application/json",
   if force then .object [("gracePeriodSeconds", .int 0), ("propagationPolicy", .str "Background")]
   else .obj []⟩

/-- Deletes an object and gives it as it was found. -/
def delete (namespaceName : String) (kind : ObjectKind) (name : String) (force : Bool) :
    StateM Connection (Reply Manifest) := do
  match ← typeOf kind with
  | .error e => return .error e
  | .ok type =>
    match ← find namespaceName type name with
    | .error e => return .error e
    | .ok found =>
      let reply ← requestObject .delete (type.path namespaceName) name "?"
        (some (deletionContent force)) fun j => if isDeletion j then some () else none
      return reply.map fun _ => found

instance : ResourceClient Connection where
  resolveType := resolveType
  list := list
  get := get
  patch := patch
  delete := delete

end Connection

end Slumber
