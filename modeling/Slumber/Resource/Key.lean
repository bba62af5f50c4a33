import Slumber.Resource.Kind
import Slumber.Text.Quoted

/-!
# Keys of objects

An `ObjectKey` identifies an object of a cluster: its namespace, which is empty for objects of the
whole cluster, its kind, and its name. `ObjectKey.text` writes it with slashes, and
`ObjectKey.ofText?` reads that back. Keys are ordered by their parts from left to right.
-/

namespace Slumber

/-- What identifies an object. -/
structure ObjectKey where
  namespaceName : String
  group : String
  version : String
  kind : String
  name : String
deriving DecidableEq, Repr

namespace ObjectKey

/-- The parts of a key from left to right. -/
def parts (k : ObjectKey) : List String :=
  [k.namespaceName, k.group, k.version, k.kind, k.name]

instance : LT ObjectKey := ⟨fun a b => a.parts < b.parts⟩

instance : DecidableLT ObjectKey := fun a b => inferInstanceAs (Decidable (a.parts < b.parts))

/-- The kind of the object. -/
def objectKind (k : ObjectKey) : ObjectKind :=
  ⟨k.group, k.version, k.kind⟩

/-- The text of a key: each part behind a slash. -/
def text (k : ObjectKey) : String :=
  String.join (k.parts.map ("/" ++ ·))

/-- Reads the text of a key. Kind and name must not be empty. -/
def ofText? (s : String) : Option ObjectKey :=
  match s.toList with
  | '/' :: cs =>
    match (Text.splitOn '/' cs).map String.ofList with
    | [ns, group, version, kind, name] =>
      if kind ≠ "" ∧ name ≠ "" then some ⟨ns, group, version, kind, name⟩ else none
    | _ => none
  | _ => none

/-- The wording for a text that is no key. -/
def invalidMessage (s : String) : String :=
  "invalid resource key: " ++ Text.quoted s

end ObjectKey

end Slumber
