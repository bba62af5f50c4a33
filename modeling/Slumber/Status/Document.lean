import Slumber.Spec.Document
import Slumber.Status.Basic
import Slumber.Time.Reading

/-!
# Statuses as documents

The written form of a status and its parts. Times are written in Universal Time and read in the
relaxed notation.
-/

namespace Slumber

open Json

namespace ObjectStatus

/-- The word for a status. -/
def text : ObjectStatus → String
  | .success => "success"
  | .error => "error"

/-- Reads a status. -/
def ofJson? : Json → Option ObjectStatus :=
  word? [("success", .success), ("error", .error)]

end ObjectStatus

namespace ImpactedObject

/-- Reads an impacted object. -/
def ofJson? (j : Json) : Option ImpactedObject := do
  let r ← j.record? ["resourceKey", "originalCount", "relatedDeletedObject", "message", "status"]
  return {
    key := ← r.part? "resourceKey" text?
    countBefore := ← r.partOr "originalCount" 0 word32?
    deleted := ← r.partOr "relatedDeletedObject" "" text?
    message := ← r.partOr "message" "" text?
    status := ← r.partOr "status" .success ObjectStatus.ofJson? }

/-- An impacted object as a document. -/
def toJson (o : ImpactedObject) : Json :=
  .object ([("resourceKey", .str o.key), ("originalCount", .ofWord32 o.countBefore)]
    ++ fieldUnless (o.deleted = "") "relatedDeletedObject" (.str o.deleted)
    ++ fieldUnless (o.message = "") "message" (.str o.message)
    ++ [("status", .str o.status.text)])

end ImpactedObject

namespace ExcludedObject

/-- Reads an excluded object. -/
def ofJson? (j : Json) : Option ExcludedObject := do
  let r ← j.record? ["resourceKey", "reason"]
  return { key := ← r.part? "resourceKey" text?, reason := ← r.partOr "reason" "" text? }

/-- An excluded object as a document. -/
def toJson (o : ExcludedObject) : Json :=
  .object ([("resourceKey", .str o.key)] ++ fieldUnless (o.reason = "") "reason" (.str o.reason))

end ExcludedObject

namespace Revision

/-- Reads a revision. -/
def ofJson? (j : Json) : Option Revision := do
  let r ← j.record? ["time", "id", "action", "impactedObjects", "excludedObjects"]
  return {
    time := ← r.part? "time" fun t => t.text?.bind Instant.readRelaxed?
    id := ← r.part? "id" word64?
    action := ← r.part? "action" Action.ofJson?
    impacted := ← r.partOr "impactedObjects" [] (list? ImpactedObject.ofJson?)
    excluded := ← r.partOr "excludedObjects" [] (list? ExcludedObject.ofJson?) }

/-- A revision as a document. -/
def toJson (r : Revision) : Json :=
  .object [("time", .str r.time.text), ("id", .ofWord64 r.id), ("action", r.action.toJson),
    ("impactedObjects", .arr (r.impacted.map ImpactedObject.toJson)),
    ("excludedObjects", .arr (r.excluded.map ExcludedObject.toJson))]

end Revision

namespace State

/-- The word for a state. -/
def text : State → String
  | .pending => "Pending"
  | .succeeded => "Succeeded"
  | .failed => "Failed"

/-- Reads a state; small first letters, and an empty word for `Pending`, are taken as well. -/
def ofJson? : Json → Option State :=
  word? [("Pending", .pending), ("pending", .pending), ("", .pending),
    ("Succeeded", .succeeded), ("succeeded", .succeeded),
    ("Failed", .failed), ("failed", .failed)]

end State

namespace Status

/-- Reads a status. -/
def ofJson? (j : Json) : Option Status := do
  let r ← j.record? ["history", "status", "message", "isHibernating", "action"]
  return {
    history := ← r.partOr "history" [] (list? Revision.ofJson?)
    state := ← r.partOr "status" .pending State.ofJson?
    message := ← r.partOr "message" "" text?
    isHibernating := ← r.partOr "isHibernating" false bool?
    action := ← r.partOr "action" none (nullable? Action.ofJson?) }

/-- A status as a document. -/
def toJson (s : Status) : Json :=
  .object ([("history", .arr (s.history.map Revision.toJson)), ("status", .str s.state.text),
      ("message", .str s.message), ("isHibernating", .bool s.isHibernating)]
    ++ fieldIfSome "action" Action.toJson s.action)

end Status

end Slumber
