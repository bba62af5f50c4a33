import Slumber.Spec.Action
import Slumber.Time.Instant

/-!
# What has been done

The `Status` of a spec records its last outcome and the history of what was done to objects: for
every past action its objects, the count each of them had, and what was left alone for which reason.
-/

namespace Slumber

/-- Whether an operation on an object went well. -/
inductive ObjectStatus where
  | success | error
deriving DecidableEq, Repr

/-- What was done to one object. The object's key is kept as its text; `deleted` is the manifest of
a deleted object, if it was to be stored. -/
structure ImpactedObject where
  key : String
  countBefore : Int32 := 0
  deleted : String := ""
  message : String := ""
  status : ObjectStatus := .success
deriving DecidableEq, Repr

/-- An object that was left alone, and why. -/
structure ExcludedObject where
  key : String
  reason : String := ""
deriving DecidableEq, Repr

/-- One past action. -/
structure Revision where
  time : Instant
  id : Int64
  action : Action
  impacted : List ImpactedObject := []
  excluded : List ExcludedObject := []
deriving DecidableEq, Repr

/-- The outcome of the last look at a spec. -/
inductive State where
  | pending | succeeded | failed
deriving DecidableEq, Repr

/-- The recorded state of a spec. -/
structure Status where
  history : List Revision := []
  state : State := .pending
  message : String := ""
  isHibernating : Bool := false
  action : Option Action := none
deriving DecidableEq, Repr

end Slumber
