import Slumber.Proofs.Json.Records
import Slumber.Spec.Document

/-!
# Specs survive being written

What was written of a spec reads as that spec, and so does what was written of each of its parts:
schedules, rules and their selectors, actions, and the resources of containers. The written form
leaves out empty lists and texts and settings that were not given, and these are what a missing part
stands for.
-/

namespace Slumber

open Json Record

theorem WeeklyRange.ofJson?_toJson (r : WeeklyRange) : ofJson? r.toJson = some r := by
  simp [ofJson?, toJson, part?_eq]

theorem WeeklySchedule.ofJson?_toJson (s : WeeklySchedule) : ofJson? s.toJson = some s := by
  have hranges := list?_map fun r (_ : r ∈ s.ranges) => r.ofJson?_toJson
  simp [ofJson?, toJson, partOr_eq, hranges]

theorem ZonedDateTime.ofJson?_toJson (t : ZonedDateTime) : ofJson? t.toJson = some t := by
  simp [ofJson?, toJson, partOr_eq]

theorem ObjectSelector.ofJson?_toJson (s : ObjectSelector) : ofJson? s.toJson = some s := by
  simp [ofJson?, toJson, part?_eq, partOr_eq]

theorem NamespaceSelector.ofJson?_toJson (s : NamespaceSelector) : ofJson? s.toJson = some s := by
  simp [ofJson?, toJson, partOr_eq]

theorem Selector.ofJson?_toJson (s : Selector) : ofJson? s.toJson = some s := by
  simp [ofJson?, toJson, part?_eq, partOr_eq, s.objects.ofJson?_toJson,
    s.namespaces.ofJson?_toJson]

/-- An action that may be missing comes back. -/
theorem Action.elim_ifSome (a : Option Action) :
    a.elim (some none) (nullable? ofJson? ∘ toJson) = some a :=
  Record.elim_ifSome ofJson?_toJson fun _ => Json.noConfusion

theorem Rule.ofJson?_toJson (r : Rule) : ofJson? r.toJson = some r := by
  have hinclusions := list?_map fun s (_ : s ∈ r.inclusions) => s.ofJson?_toJson
  have hexclusions := list?_map fun s (_ : s ∈ r.exclusions) => s.ofJson?_toJson
  simp [ofJson?, toJson, partOr_eq, hinclusions, hexclusions, Action.elim_ifSome]

namespace ContainerResources

theorem ofJson?_toJson (c : ContainerResources) : ofJson? c.toJson = some c := by
  have hquantities : ∀ m, map? text? (quantitiesJson m) = some m := fun m => map?_map fun _ _ => rfl
  simp [ofJson?, toJson, partOr_eq, hquantities]

theorem mapOfJson?_mapToJson (m : FiniteMap String ContainerResources) :
    mapOfJson? (mapToJson m) = some m :=
  map?_map fun p _ => p.2.ofJson?_toJson

end ContainerResources

theorem Spec.ofJson?_toJson (s : Spec) : ofJson? s.toJson = some s := by
  have hrules := list?_map fun r (_ : r ∈ s.rules) => r.ofJson?_toJson
  have huntil := Record.elim_ifSome (o := s.pauseUntil) ZonedDateTime.ofJson?_toJson
    fun _ => Json.noConfusion
  have hlimit := Record.elim_ifSome (o := s.revisionLimit) word32?_ofWord32
    fun _ => Json.noConfusion
  have hreplicas := list?_map fun n (_ : n ∈ s.targetReplicas) => word32?_ofWord32 n
  have hresources := list?_map fun m (_ : m ∈ s.targetResources) =>
    ContainerResources.mapOfJson?_mapToJson m
  simp [ofJson?, toJson, partOr_eq, s.schedule.ofJson?_toJson, s.action.ofJson?_toJson, hrules,
    huntil, hlimit, hreplicas, hresources]

end Slumber
