import Slumber.Spec.Document
import Slumber.Spec.Schema
import Slumber.Status.Document

/-!
# The definition of the resource

A `Hibernator` is a resource of its own type in the cluster. `resourceDefinition` is the document
that makes the type known: its names, its version, and the schemas of specs and statuses. What the
schemas assume for parts that are left out is what the readers of specs and statuses assume.
-/

namespace Slumber

/-- The group of the resource type. -/
def resourceGroup : String := "pincher.devtron.ai"

/-- The version of the resource type. -/
def resourceVersion : String := "v1alpha1"

/-- The kind of the resource type. -/
def resourceKind : String := "Hibernator"

/-- The plural of the resource type. -/
def resourcePlural : String := "hibernators"

/-- An action. -/
def actionSchema : Schema :=
  .word ([.hibernate, .unhibernate, .delete, .scale].map Action.text)

/-- A list of texts. -/
def textsSchema : Schema := .list .text

/-- A weekly range. -/
def rangeSchema : Schema :=
  (Schema.record
    [("timeFrom", .text), ("timeTo", .text), ("weekdayFrom", .text), ("weekdayTo", .text)]
    ["timeFrom", "timeTo", "weekdayFrom", "weekdayTo"]).described
    ("A weekly window, e.g. Mon-Fri 20:00-23:59.\n\n"
      ++ "Times are `H[:MM[:SS]]`; weekdays are `Sun`..`Sat`. A range whose\n"
      ++ "`weekdayFrom` comes after `weekdayTo` wraps past Saturday.")

/-- A weekly schedule. -/
def scheduleSchema : Schema :=
  (Schema.record
    [("timeRanges",
        ((Schema.list rangeSchema).described "Weekly ranges").assuming (.arr [])),
     ("timeZone",
        Schema.text.described "IANA zone the ranges are expressed in (UTC when empty)")]).assuming
    ({} : WeeklySchedule).toJson

/-- A selector of namespaces. -/
def namespaceSelectorSchema : Schema :=
  (Schema.record
    [("fieldSelector", textsSchema),
     ("labels", textsSchema),
     ("name", Schema.text.described
        "Comma-separated namespaces; empty or `all` selects every namespace")]).assuming
    ({} : NamespaceSelector).toJson

/-- A selector of objects. -/
def objectSelectorSchema : Schema :=
  .record
    [("fieldSelector", textsSchema.described "Field expressions, ANDed"),
     ("labels", textsSchema.described "Label selector terms, ANDed"),
     ("name", Schema.text.described "Comma-separated object names"),
     ("type", Schema.text.described
        "Comma-separated resource types (kind, plural, short name or `plural.group`)")]
    ["type"]

/-- A selector. -/
def selectorSchema : Schema :=
  .record [("namespaceSelector", namespaceSelectorSchema), ("objectSelector", objectSelectorSchema)]
    ["objectSelector"]

/-- A rule. -/
def ruleSchema : Schema :=
  .record
    [("action", actionSchema.orNull.described
        "Overrides the spec-level action for objects matched by this rule"),
     ("exclusions", .list selectorSchema),
     ("inclusions", (Schema.list selectorSchema).assuming (.arr []))]

/-- The resources of a container. -/
def containerResourcesSchema : Schema :=
  .record [("limits", .mapOf .text), ("requests", .mapOf .text)]

/-- A spec. -/
def specSchema : Schema :=
  let usual : Spec := {}
  .record
    [("action", (actionSchema.described "Transition applied while the schedule is active").assuming
        usual.action.toJson),
     ("deleteStore", (Schema.truth.described
        "Keep the manifest of deleted objects in the history").assuming (.bool usual.storeDeleted)),
     ("hibernate", (Schema.truth.described
        "Force the active state regardless of the schedule").assuming (.bool usual.forceActive)),
     ("pause", (Schema.truth.described "Stop reconciling entirely").assuming (.bool usual.pause)),
     ("pauseUntil", ((Schema.record
        [("dateTime", (Schema.text.described
            "RFC 3339, or `YYYY-MM-DD HH:MM[:SS]` interpreted in `timeZone`").assuming (.str "")),
         ("timeZone", .text)]).described "Stop reconciling until the given instant").orNull),
     ("reSyncInterval", (Schema.word64.described
        "Maximum seconds between two reconciles (0 means schedule-driven only)").assuming
        (.ofWord64 usual.resyncInterval)),
     ("revisionHistoryLimit",
        (Schema.word32.described "Number of history entries to keep").orNull),
     ("selectors", ((Schema.list ruleSchema).described
        "Rules selecting the objects to act upon").assuming (.arr [])),
     ("targetReplicas", (Schema.list .word32).described
        "Replica counts for `scale`, one per time range"),
     ("targetResources", (Schema.list (.mapOf containerResourcesSchema)).described
        "Container resources for `scale`, one map per time range keyed by container name"),
     ("timeRangesWithZone", scheduleSchema.described
        "Weekly windows during which the selected objects are acted upon"),
     ("unHibernate", (Schema.truth.described
        "Force the inactive state regardless of the schedule").assuming
          (.bool usual.forceInactive))]

/-- An excluded object. -/
def excludedSchema : Schema :=
  .record [("reason", .text), ("resourceKey", .text)] ["resourceKey"]

/-- An impacted object. -/
def impactedSchema : Schema :=
  .record
    [("message", .text),
     ("originalCount", Schema.word32.assuming (.int 0)),
     ("relatedDeletedObject", Schema.text.described
        "Manifest of a deleted object, when `deleteStore` is set"),
     ("resourceKey", Schema.text.described "`/namespace/group/version/kind/name`"),
     ("status", (Schema.word ([.success, .error].map ObjectStatus.text)).assuming
        (.str ObjectStatus.success.text))]
    ["resourceKey"]

/-- A revision. -/
def revisionSchema : Schema :=
  .record
    [("action", actionSchema.described
        ("Transition performed on the selected objects\n\n"
          ++ "Serialized lowercase to stay compatible with existing resources;\n"
          ++ "`sleep` is accepted as a synonym of `hibernate`.")),
     ("excludedObjects", (Schema.list excludedSchema).assuming (.arr [])),
     ("id", .word64),
     ("impactedObjects", (Schema.list impactedSchema).assuming (.arr [])),
     ("time", .instant)]
    ["action", "id", "time"]

/-- A status. -/
def statusSchema : Schema :=
  let usual : Status := {}
  .record
    [("action", actionSchema.orNull.described "Last transition performed"),
     ("history", ((Schema.list revisionSchema).described "Past actions, ordered by id").assuming
        (.arr [])),
     ("isHibernating", Schema.truth.assuming (.bool usual.isHibernating)),
     ("message", Schema.text.assuming (.str usual.message)),
     ("status", ((Schema.word ([.pending, .succeeded, .failed].map State.text)).described
        ("Outcome of the last reconcile\n\n"
          ++ "Serializes as PascalCase but accepts lowercase as well.")).assuming
        (.str usual.state.text))]

/-- The whole resource. -/
def resourceSchema : Schema :=
  ((Schema.record [("spec", specSchema), ("status", statusSchema.orNull)] ["spec"]).described
    "Auto-generated derived type for HibernatorSpec via `CustomResource`").adding
    "title" (.str resourceKind)

/-- The document that makes the resource type known to a cluster. -/
def resourceDefinition : Json :=
  .object
    [("apiVersion", .str "apiextensions.k8s.io/v1"),
     ("kind", .str "CustomResourceDefinition"),
     ("metadata", .object [("name", .str (resourcePlural ++ "." ++ resourceGroup))]),
     ("spec", .object
       [("group", .str resourceGroup),
        ("names", .object
          [("categories", .arr []), ("kind", .str resourceKind), ("plural", .str resourcePlural),
           ("shortNames", .arr [.str "hib"]), ("singular", .str "hibernator")]),
        ("scope", .str "Namespaced"),
        ("versions", .arr [.object
          [("additionalPrinterColumns", .arr []), ("name", .str resourceVersion),
           ("schema", .object [("openAPIV3Schema", resourceSchema.toJson)]),
           ("served", .bool true), ("storage", .bool true),
           ("subresources", .object [("status", .object [])])]])])]

end Slumber
