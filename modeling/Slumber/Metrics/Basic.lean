import Slumber.Status.Document
import Slumber.Transition.Basic

/-!
# Counting what was done

`Metrics` counts the looks at specs by their outcome, and the objects that were acted upon or left
alone by the action; a gauge says which resources keep objects asleep. `ready` tells whether the
controller has started. Each series is kept under the values of its labels.
-/

namespace Slumber

/-- Values under the values of labels. -/
abbrev Series := FiniteMap (List String) Nat

/-- The series with `n` more at some labels. A series that is counted for the first time starts from
zero. -/
def Series.count (s : Series) (labels : List String) (n : Nat) : Series :=
  s.insert labels ((s.find? labels).getD 0 + n)

/-- All counters and gauges. The labels are the outcome for `reconciles`, action and status for
`impacted`, the action for `excluded`, and name and namespace for `hibernating`. -/
structure Metrics where
  reconciles : Series := []
  impacted : Series := []
  excluded : Series := []
  hibernating : Series := []
  ready : Bool := false
deriving DecidableEq, Repr

namespace Metrics

/-- Counts a look at a spec. -/
def recordReconcile (m : Metrics) (outcome : String) : Metrics :=
  { m with reconciles := Series.count m.reconciles [outcome] 1 }

/-- Counts the objects of a report. -/
def recordReport (m : Metrics) (r : Report) : Metrics :=
  let action := r.action.text
  { m with
    impacted :=
      r.impacted.foldl (fun s o => Series.count s [action, o.status.text] 1) m.impacted
    excluded := Series.count m.excluded [action] r.excluded.length }

/-- Sets the gauge of a resource. -/
def setHibernating (m : Metrics) (namespaceName name : String) (isHibernating : Bool) : Metrics :=
  let value := if isHibernating then 1 else 0
  { m with hibernating := FiniteMap.insert m.hibernating [name, namespaceName] value }

/-- Drops the gauge of a resource that is gone. -/
def forget (m : Metrics) (namespaceName name : String) : Metrics :=
  { m with hibernating := FiniteMap.erase m.hibernating [name, namespaceName] }

/-- Marks the controller as started. -/
def setReady (m : Metrics) : Metrics :=
  { m with ready := true }

end Metrics

end Slumber
