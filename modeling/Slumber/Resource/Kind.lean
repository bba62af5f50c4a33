import Slumber.Text.Letters
import Slumber.Text.Words

/-!
# Kinds and types of resources

An `ObjectKind` is a kind of object with the group and version of the interface that serves it; the
core group has no name. A `ResourceType` is a kind with its plural name in paths and its scope.
`TypeName` is what a user writes for a type: its kind, its plural or a short name, and a group
behind a point if one is wanted.
-/

namespace Slumber

/-- A kind of object: group, version and kind. -/
structure ObjectKind where
  group : String
  version : String
  kind : String
deriving DecidableEq, Repr

namespace ObjectKind

/-- Splits an interface version such as `apps/v1`, or `v1` for the core group. -/
def ofApiVersion (apiVersion kind : String) : ObjectKind :=
  match Text.cutAt '/' apiVersion.toList with
  | some (group, version) => ⟨String.ofList group, String.ofList version, kind⟩
  | none => ⟨"", apiVersion, kind⟩

/-- The interface version. -/
def apiVersion (k : ObjectKind) : String :=
  if k.group = "" then k.version else k.group ++ "/" ++ k.version

/-- The text of a kind: its interface version and its name. -/
def text (k : ObjectKind) : String :=
  k.apiVersion ++ "/" ++ k.kind

end ObjectKind

/-- A kind with its plural name in paths, and whether its objects live in namespaces. -/
structure ResourceType where
  kind : ObjectKind
  plural : String
  namespaced : Bool
deriving DecidableEq, Repr

/-- The name of a type as a user means it: in lower case, a short name replaced by the plural. -/
structure TypeName where
  name : String
  group : Option String
deriving DecidableEq, Repr

namespace TypeName

/-- The plural that a short name stands for; any other name stands for itself. -/
def ofShort (name : String) : String :=
  match name with
  | "cj" => "cronjobs"
  | "cm" => "configmaps"
  | "deploy" => "deployments"
  | "ds" => "daemonsets"
  | "hpa" => "horizontalpodautoscalers"
  | "ns" => "namespaces"
  | "po" => "pods"
  | "ro" => "rollouts"
  | "rs" => "replicasets"
  | "sts" => "statefulsets"
  | "svc" => "services"
  | other => other

/-- Reads the name of a type. -/
def ofText (s : String) : TypeName :=
  let wanted := Text.toAsciiLower (Text.trim s)
  match Text.cutAt '.' wanted.toList with
  | some (name, group) => ⟨ofShort (String.ofList name), some (String.ofList group)⟩
  | none => ⟨ofShort wanted, none⟩

/-- Whether the wanted group, if there is one, is `group`. -/
def wantsGroup (t : TypeName) (group : String) : Bool :=
  match t.group with
  | some g => g == group
  | none => true

/-- Whether the name is that of a type by its plural or its kind. -/
def names (t : TypeName) (plural kind : String) : Bool :=
  plural == t.name || Text.toAsciiLower kind == t.name

end TypeName

end Slumber
