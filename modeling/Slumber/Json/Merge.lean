import Slumber.Json.Patch

/-!
# Merging a document into another

`Json.mergePatch` lays a document over another: objects are merged field by field, `null` removes a
field, and anything else replaces what was there. `Json.strategicMerge` does the same, but merges
two lists item by item when every item of the patch has a name: an item changes the first item of
the same name and is added at the end if there is none. In a part that is new to the target a
strategic merge keeps `null` as it is, where a merge patch leaves the field out.
-/

namespace Slumber.Json

mutual

/-- Lays `patch` over `target`; nothing is left of a target that is not an object. -/
def mergePatch (target : Json) : (patch : Json) → Json
  | .obj fields =>
    match target with
    | .obj old => .obj (mergePatchFields old fields)
    | _ => .obj (mergePatchFields [] fields)
  | p => p

/-- Lays the fields of a merge patch over the fields of an object, one after the other. -/
def mergePatchFields (target : List (String × Json)) : (patch : List (String × Json)) →
    List (String × Json)
  | [] => target
  | (k, v) :: rest =>
    match v with
    | .null => mergePatchFields (FiniteMap.erase target k) rest
    | v =>
      mergePatchFields
        (FiniteMap.insert target k (mergePatch ((FiniteMap.find? target k).getD .null) v)) rest

end

/-- Whether a document has a field `name`. -/
def hasName (j : Json) : Bool :=
  (j.field? "name").isSome

/-- Whether two documents agree on their field `name`. -/
def sameName (a b : Json) : Bool :=
  match a.field? "name", b.field? "name" with
  | some x, some y => x.sameValue y
  | none, none => true
  | _, _ => false

/-- Changes the first element that passes the test by `f`, or adds `new` at the end. -/
def changeFirst (test : Json → Bool) (f : Json → Json) (new : Json) : List Json → List Json
  | [] => [new]
  | x :: xs => if test x then f x :: xs else x :: changeFirst test f new xs

mutual

/-- Lays `patch` over `target`, merging lists of named items by name. -/
def strategicMerge (target : Json) : (patch : Json) → Json
  | .obj fields =>
    match target with
    | .obj old => .obj (strategicMergeFields old fields)
    | _ => .obj fields
  | .arr items =>
    match target with
    | .arr old => if items.all hasName then .arr (strategicMergeItems old items) else .arr items
    | _ => .arr items
  | p => p

/-- Lays the fields of a strategic merge over the fields of an object, one after the other. -/
def strategicMergeFields (target : List (String × Json)) : (patch : List (String × Json)) →
    List (String × Json)
  | [] => target
  | (k, v) :: rest =>
    match v with
    | .null => strategicMergeFields (FiniteMap.erase target k) rest
    | v =>
      strategicMergeFields
        (FiniteMap.insert target k (strategicMerge ((FiniteMap.find? target k).getD .null) v)) rest

/-- Merges named items into a list, one after the other. -/
def strategicMergeItems (target : List Json) : (patch : List Json) → List Json
  | [] => target
  | item :: rest =>
    strategicMergeItems
      (changeFirst (fun x => sameName x item) (fun x => strategicMerge x item) item target) rest

end

end Slumber.Json
