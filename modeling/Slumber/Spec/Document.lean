import Slumber.Spec.Basic

/-!
# Specs as documents

The written form of a spec and its parts. Each `ofJson?` takes objects with the named fields or
arrays in the order of the names, and each `toJson` leaves out what would be read back without being
written: empty lists and texts, and settings that were not given.
-/

namespace Slumber

open Json

namespace WeeklyRange

/-- Reads a weekly range. -/
def ofJson? (j : Json) : Option WeeklyRange := do
  let r ← j.record? ["timeFrom", "timeTo", "weekdayFrom", "weekdayTo"]
  return {
    timeFrom := ← r.part? "timeFrom" text?
    timeTo := ← r.part? "timeTo" text?
    weekdayFrom := ← r.part? "weekdayFrom" text?
    weekdayTo := ← r.part? "weekdayTo" text? }

/-- A weekly range as a document. -/
def toJson (r : WeeklyRange) : Json :=
  .object [("timeFrom", .str r.timeFrom), ("timeTo", .str r.timeTo),
    ("weekdayFrom", .str r.weekdayFrom), ("weekdayTo", .str r.weekdayTo)]

end WeeklyRange

namespace WeeklySchedule

/-- Reads a schedule. -/
def ofJson? (j : Json) : Option WeeklySchedule := do
  let r ← j.record? ["timeRanges", "timeZone"]
  return {
    ranges := ← r.partOr "timeRanges" [] (list? WeeklyRange.ofJson?)
    zone := ← r.partOr "timeZone" "" text? }

/-- A schedule as a document. -/
def toJson (s : WeeklySchedule) : Json :=
  .object ([("timeRanges", .arr (s.ranges.map WeeklyRange.toJson))]
    ++ fieldUnless (s.zone = "") "timeZone" (.str s.zone))

end WeeklySchedule

namespace ZonedDateTime

/-- Reads a date and time with its zone. -/
def ofJson? (j : Json) : Option ZonedDateTime := do
  let r ← j.record? ["dateTime", "timeZone"]
  return { dateTime := ← r.partOr "dateTime" "" text?, zone := ← r.partOr "timeZone" "" text? }

/-- A date and time with its zone as a document. -/
def toJson (t : ZonedDateTime) : Json :=
  .object ([("dateTime", .str t.dateTime)] ++ fieldUnless (t.zone = "") "timeZone" (.str t.zone))

end ZonedDateTime

namespace ObjectSelector

/-- Reads an object selector. -/
def ofJson? (j : Json) : Option ObjectSelector := do
  let r ← j.record? ["labels", "name", "type", "fieldSelector"]
  return {
    labels := ← r.partOr "labels" [] (list? text?)
    name := ← r.partOr "name" "" text?
    type := ← r.part? "type" text?
    fields := ← r.partOr "fieldSelector" [] (list? text?) }

/-- An object selector as a document. -/
def toJson (s : ObjectSelector) : Json :=
  .object (fieldUnless s.labels.isEmpty "labels" (texts s.labels)
    ++ fieldUnless (s.name = "") "name" (.str s.name) ++ [("type", .str s.type)]
    ++ fieldUnless s.fields.isEmpty "fieldSelector" (texts s.fields))

end ObjectSelector

namespace NamespaceSelector

/-- Reads a namespace selector. -/
def ofJson? (j : Json) : Option NamespaceSelector := do
  let r ← j.record? ["labels", "name", "fieldSelector"]
  return {
    labels := ← r.partOr "labels" [] (list? text?)
    name := ← r.partOr "name" "" text?
    fields := ← r.partOr "fieldSelector" [] (list? text?) }

/-- A namespace selector as a document. -/
def toJson (s : NamespaceSelector) : Json :=
  .object (fieldUnless s.labels.isEmpty "labels" (texts s.labels)
    ++ fieldUnless (s.name = "") "name" (.str s.name)
    ++ fieldUnless s.fields.isEmpty "fieldSelector" (texts s.fields))

end NamespaceSelector

namespace Selector

/-- Reads a selector. -/
def ofJson? (j : Json) : Option Selector := do
  let r ← j.record? ["objectSelector", "namespaceSelector"]
  return {
    objects := ← r.part? "objectSelector" ObjectSelector.ofJson?
    namespaces := ← r.partOr "namespaceSelector" {} NamespaceSelector.ofJson? }

/-- A selector as a document. -/
def toJson (s : Selector) : Json :=
  .object [("objectSelector", s.objects.toJson), ("namespaceSelector", s.namespaces.toJson)]

end Selector

namespace Rule

/-- Reads a rule. -/
def ofJson? (j : Json) : Option Rule := do
  let r ← j.record? ["inclusions", "exclusions", "action"]
  return {
    inclusions := ← r.partOr "inclusions" [] (list? Selector.ofJson?)
    exclusions := ← r.partOr "exclusions" [] (list? Selector.ofJson?)
    action := ← r.partOr "action" none (nullable? Action.ofJson?) }

/-- A rule as a document. -/
def toJson (r : Rule) : Json :=
  .object ([("inclusions", .arr (r.inclusions.map Selector.toJson))]
    ++ fieldUnless r.exclusions.isEmpty "exclusions" (.arr (r.exclusions.map Selector.toJson))
    ++ fieldIfSome "action" Action.toJson r.action)

end Rule

namespace ContainerResources

/-- Quantities by resource name as a document. -/
def quantitiesJson (m : FiniteMap String String) : Json :=
  .obj (m.map fun (k, v) => (k, .str v))

/-- Reads the resources of a container. -/
def ofJson? (j : Json) : Option ContainerResources := do
  let r ← j.record? ["requests", "limits"]
  return {
    requests := ← r.partOr "requests" [] (map? text?)
    limits := ← r.partOr "limits" [] (map? text?) }

/-- The resources of a container as a document. -/
def toJson (c : ContainerResources) : Json :=
  .object (fieldUnless c.requests.isEmpty "requests" (quantitiesJson c.requests)
    ++ fieldUnless c.limits.isEmpty "limits" (quantitiesJson c.limits))

/-- Reads resources by container name. -/
def mapOfJson? : Json → Option (FiniteMap String ContainerResources) :=
  map? ofJson?

/-- Resources by container name as a document. -/
def mapToJson (m : FiniteMap String ContainerResources) : Json :=
  .obj (m.map fun (k, v) => (k, v.toJson))

end ContainerResources

namespace Spec

/-- The names of the fields of a spec in their order. -/
def fieldNames : List String :=
  ["timeRangesWithZone", "selectors", "hibernate", "unHibernate", "reSyncInterval", "pause",
   "pauseUntil", "revisionHistoryLimit", "action", "deleteStore", "targetReplicas",
   "targetResources"]

/-- Reads a spec. -/
def ofJson? (j : Json) : Option Spec := do
  let r ← j.record? fieldNames
  return {
    schedule := ← r.partOr "timeRangesWithZone" {} WeeklySchedule.ofJson?
    rules := ← r.partOr "selectors" [] (list? Rule.ofJson?)
    forceActive := ← r.partOr "hibernate" false bool?
    forceInactive := ← r.partOr "unHibernate" false bool?
    resyncInterval := ← r.partOr "reSyncInterval" 0 word64?
    pause := ← r.partOr "pause" false bool?
    pauseUntil := ← r.partOr "pauseUntil" none (nullable? ZonedDateTime.ofJson?)
    revisionLimit := ← r.partOr "revisionHistoryLimit" none (nullable? word32?)
    action := ← r.partOr "action" .hibernate Action.ofJson?
    storeDeleted := ← r.partOr "deleteStore" false bool?
    targetReplicas := ← r.partOr "targetReplicas" [] (list? word32?)
    targetResources := ← r.partOr "targetResources" [] (list? ContainerResources.mapOfJson?) }

/-- A spec as a document. -/
def toJson (s : Spec) : Json :=
  .object ([("timeRangesWithZone", s.schedule.toJson),
      ("selectors", .arr (s.rules.map Rule.toJson)),
      ("hibernate", .bool s.forceActive),
      ("unHibernate", .bool s.forceInactive),
      ("reSyncInterval", .ofWord64 s.resyncInterval),
      ("pause", .bool s.pause)]
    ++ fieldIfSome "pauseUntil" ZonedDateTime.toJson s.pauseUntil
    ++ fieldIfSome "revisionHistoryLimit" .ofWord32 s.revisionLimit
    ++ [("action", s.action.toJson), ("deleteStore", .bool s.storeDeleted)]
    ++ fieldUnless s.targetReplicas.isEmpty "targetReplicas"
      (.arr (s.targetReplicas.map .ofWord32))
    ++ fieldUnless s.targetResources.isEmpty "targetResources"
      (.arr (s.targetResources.map ContainerResources.mapToJson)))

end Spec

end Slumber
