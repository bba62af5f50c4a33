import Slumber.Expression.Evaluator
import Slumber.Resource.Client
import Slumber.Spec.Basic

/-!
# Selecting objects of a cluster

A selector names types and narrows their objects by namespace, name, labels and field expressions; a
rule takes what its inclusions select and sets apart what its exclusions select as well. A type that
the cluster does not know, a listing it refuses, and an object it does not find are passed over, so
that the rest of the rule still applies. Only an expression whose evaluation has no end stops a
selection: `Run` is an activity on a cluster that may be stopped in that way.
-/

namespace Slumber

open Slumber.Text Slumber.Expression

/-- An activity on a cluster with state `σ` that an overflow may stop. -/
abbrev Run (σ : Type) := StateT σ (Except Overflow)

/-- An activity that nothing stops. -/
def Run.lift {σ α : Type} (m : StateM σ α) : Run σ α :=
  fun s => .ok (m s)

namespace Selection

variable {σ : Type} [ResourceClient σ]

/-- The word for all namespaces. -/
def allNamespaces : String := "all"

/-- Whether a document matches all expressions; blank ones are passed over. -/
def satisfies (now : Instant) (document : Json) : List String → Except Overflow Bool
  | [] => .ok true
  | e :: es =>
    if trim e = "" then satisfies now document es
    else
      match matchesAt e document now with
      | .ok true => satisfies now document es
      | .ok false => .ok false
      | .error stop => .error stop

/-- The objects that match all expressions. -/
def matching (now : Instant) (expressions : List String) :
    List Manifest → Except Overflow (List Manifest)
  | [] => .ok []
  | m :: ms => do
    let isMeant ← satisfies now m.document expressions
    let rest ← matching now expressions ms
    return if isMeant then m :: rest else rest

/-- The label selector of some terms; blank ones are left out. -/
def labelSelector? (labels : List String) : Option String :=
  match (labels.map trim).filter (· ≠ "") with
  | [] => none
  | terms => some (",".intercalate terms)

/-- The namespaces that a selector means: those it names, or else all that its labels and
expressions select. -/
def namespacesOf (now : Instant) (s : NamespaceSelector) : Run σ (List String) := do
  let named := names s.name
  if named ≠ [] ∧ allNamespaces ∉ named then return named
  match ← Run.lift (ResourceClient.resolveType "namespaces") with
  | .error _ => return []
  | .ok type =>
    match ← Run.lift (ResourceClient.list none type (labelSelector? s.labels)) with
    | .error _ => return []
    | .ok found => return (← matching now s.fields found).map Manifest.name

/-- The objects of the given names that are there. -/
def getAll (namespaceName : String) (kind : ObjectKind) :
    List String → StateM σ (List Manifest)
  | [] => pure []
  | name :: rest => do
    let found ← ResourceClient.get namespaceName kind name
    let others ← getAll namespaceName kind rest
    return found.toOption.toList ++ others

/-- The objects of a type in one namespace, or without one, that a selector means. Names, if there
are any, take the place of labels. -/
def objectsIn (now : Instant) (namespaceName : Option String) (type : ResourceType)
    (s : ObjectSelector) : Run σ (List Manifest) := do
  let named := names s.name
  let found ←
    if named = [] then do
      let listed ←
        Run.lift (ResourceClient.list namespaceName type (labelSelector? s.labels))
      pure (listed.toOption.getD [])
    else Run.lift (getAll (namespaceName.getD "") type.kind named)
  matching now s.fields found

/-- The objects of a type in several namespaces. -/
def objectsInAll (now : Instant) (type : ResourceType) (s : ObjectSelector) :
    List String → Run σ (List Manifest)
  | [] => pure []
  | n :: rest => do
    let found ← objectsIn now (some n) type s
    let others ← objectsInAll now type s rest
    return found ++ others

/-- Objects under their keys; a later object takes the place of an earlier one. -/
abbrev Selected := FiniteMap ObjectKey Manifest

/-- The selection with more objects. -/
def Selected.including (selected : Selected) (objects : List Manifest) : Selected :=
  objects.foldl (fun s m => s.insert m.key m) selected

/-- Adds the objects of the given types to a selection. `known` are the namespaces, once they have
been asked for. -/
def selectTypes (now : Instant) (s : Selector) :
    List String → (known : Option (List String)) → Selected → Run σ Selected
  | [], _, selected => pure selected
  | name :: rest, known, selected => do
    match ← Run.lift (ResourceClient.resolveType name) with
    | .error _ => selectTypes now s rest known selected
    | .ok type =>
      if type.namespaced then
        let namespaces ←
          match known with
          | some namespaces => pure namespaces
          | none => namespacesOf now s.namespaces
        let found ← objectsInAll now type s.objects namespaces
        selectTypes now s rest (some namespaces) (selected.including found)
      else
        let found ← objectsIn now none type s.objects
        selectTypes now s rest known (selected.including found)

/-- The objects that a selector means. -/
def select (now : Instant) (s : Selector) : Run σ Selected :=
  selectTypes now s (names s.objects.type) none []

/-- The objects that one of several selectors means. -/
def selectAny (now : Instant) : List Selector → Selected → Run σ Selected
  | [], selected => pure selected
  | s :: rest, selected => do
    let found ← select now s
    selectAny now rest (found.foldl (fun all (k, m) => all.insert k m) selected)

/-- What a rule selects, apart from what it selects and excludes. -/
structure RuleSelection where
  included : Selected := []
  excluded : Selected := []

/-- The selection of a rule: exclusions win over inclusions. -/
def selectRule (now : Instant) (r : Rule) : Run σ RuleSelection := do
  let included ← selectAny now r.inclusions []
  let excluded ← selectAny now r.exclusions []
  return {
    included := included.filter fun (k, _) => !excluded.contains k
    excluded := included.filter fun (k, _) => excluded.contains k }

end Selection

end Slumber
