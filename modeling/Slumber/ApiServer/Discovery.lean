import Slumber.ApiServer.Version
import Slumber.FiniteMap
import Slumber.Resource.Kind

/-!
# What a server serves

A server serves groups of resources, each group in some versions, and recommends one version of each
group. A `Discovery` is what is known of the groups of a server at some time. `Discovery.findType?`
looks a type up by the name that a user gives it, among the recommended versions only;
`Discovery.typeOf?` looks up an exact kind in any version. A resource whose plural has a slash in it
is a part of another resource and no type of its own.
-/

namespace Slumber

/-- A resource as one version of a group serves it. -/
structure ServedResource where
  plural : String
  kind : String
  namespaced : Bool
deriving DecidableEq, Repr

/-- A version of a group with its resources. -/
structure ServedVersion where
  version : String
  resources : List ServedResource
deriving DecidableEq, Repr

/-- A group with its versions and the one it prefers. The core group has no name. -/
structure ServedGroup where
  name : String
  preferred : Option String := none
  versions : List ServedVersion
deriving DecidableEq, Repr

namespace ServedResource

/-- Whether the resource is a type of its own. -/
def isType (r : ServedResource) : Bool :=
  '/' ∉ r.plural.toList

/-- The type of a resource in a version of a group. -/
def type (r : ServedResource) (group version : String) : ResourceType :=
  ⟨⟨group, version, r.kind⟩, r.plural, r.namespaced⟩

end ServedResource

namespace ServedGroup

/-- The version that the core group always prefers. -/
def coreVersion : String := "v1"

/-- The version to use when none is asked for: the preferred one, or else the latest. -/
def recommended? (g : ServedGroup) : Option String :=
  if g.name = "" then some coreVersion
  else g.preferred <|> Version.latest? (g.versions.map (·.version))

/-- The types of a version. -/
def typesIn (g : ServedGroup) (version : String) : List ResourceType :=
  match g.versions.find? (·.version = version) with
  | some v => (v.resources.filter ServedResource.isType).map (·.type g.name version)
  | none => []

/-- The types of the recommended version. -/
def recommendedTypes (g : ServedGroup) : List ResourceType :=
  g.recommended?.elim [] g.typesIn

end ServedGroup

/-- The known groups of a server under their names. -/
abbrev Discovery := FiniteMap String ServedGroup

namespace Discovery

/-- What is learnt of a server with the given groups. It is an error if a group has no version or
if there is no core group. -/
def ofGroups? (groups : List ServedGroup) : Option Discovery :=
  if groups.any (·.versions.isEmpty) ∨ groups.all (·.name ≠ "") then none
  else some (FiniteMap.ofList (groups.map fun g => (g.name, g)))

/-- The type that a user's name for it means. -/
def findType? (d : Discovery) (name : String) : Option ResourceType :=
  let wanted := TypeName.ofText name
  (d.values.filter fun g => wanted.wantsGroup g.name).findSome? fun g =>
    g.recommendedTypes.find? fun t => wanted.names t.plural t.kind.kind

/-- The type of a kind. -/
def typeOf? (d : Discovery) (kind : ObjectKind) : Option ResourceType := do
  let g ← d.find? kind.group
  (g.typesIn kind.version).find? (·.kind.kind = kind.kind)

end Discovery

end Slumber
