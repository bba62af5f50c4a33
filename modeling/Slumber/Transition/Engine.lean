import Slumber.Selection
import Slumber.Transition.Autoscaler
import Slumber.Transition.Basic
import Slumber.Transition.Deletion
import Slumber.Transition.Resources
import Slumber.Transition.Restore

/-!
# Running transitions

`Transition.run` applies one transition to objects, one after the other; a failure is recorded and
the next object is handled. An object that is reached twice, by itself and as an autoscaler, is
handled once. `execute` runs all rules of a spec: rules are grouped by their action, every group is
a transition of its own, and an exclusion of one rule wins over an inclusion of another in its
group.
-/

namespace Slumber

open Slumber.Selection

/-- Why an object is left alone that a rule excludes. -/
def excludedByRule : String := "excluded by rule"

/-- The kind of pods. -/
def podKind : String := "Pod"

section

variable {σ : Type} [ResourceClient σ]

namespace Transition

/-- Applies a transition to one object. -/
def applyTo (t : Transition) (store : Bool) (h : History) (object : Manifest) :
    StateM σ (List ImpactedObject × List ExcludedObject) := do
  match t with
  | .hibernate => return ((← scaleReplicas object 0).toList, [])
  | .scale replicas resources =>
    let scaled ←
      match replicas with
      | some n => scaleReplicas object n
      | none => pure none
    let resized ←
      match resources with
      | some targets => if object.kind = podKind then scaleResources object targets else pure none
      | none => pure none
    return (scaled.toList ++ resized.toList, [])
  | .unhibernate =>
    match ← restoreObject object h with
    | .restored o => return ([o], [])
    | .skipped => return ([], [])
    | .excluded o => return ([], [o])
  | .delete => return ([← deleteObject object store], [])

/-- Applies a transition to the rest of the objects; `seen` are the keys of those handled so far. -/
def runFrom (t : Transition) (store : Bool) (h : History) :
    List Manifest → AutoscalerIndex → (seen : List ObjectKey) → Report → StateM σ Report
  | [], _, _, report => pure report
  | target :: rest, index, seen, report => do
    let (object, index) ←
      match t with
      | .delete => pure (target, index)
      | _ => index.scalingObject target
    if object.key ∈ seen then runFrom t store h rest index seen report
    else
      let (impacted, excluded) ← t.applyTo store h object
      runFrom t store h rest index (object.key :: seen) (report.adding impacted excluded)

/-- Applies a transition to objects. -/
def run (t : Transition) (store : Bool) (targets : List Manifest) (h : History) :
    StateM σ Report :=
  t.runFrom store h targets {} [] { action := t.action }

end Transition

/-- Rules by their action, in the order in which the actions first appear. -/
def ruleGroups (s : Spec) : List (Action × List Rule) :=
  let actionOf (r : Rule) : Action := r.action.getD s.action
  let actions := (s.rules.map actionOf).foldl (fun as a => if a ∈ as then as else as ++ [a]) []
  actions.map fun a => (a, s.rules.filter fun r => actionOf r = a)

/-- What the rules of a group select together. -/
def selectGroup (now : Instant) : List Rule → RuleSelection → Run σ RuleSelection
  | [], all => pure all
  | r :: rest, all => do
    let found ← selectRule now r
    selectGroup now rest {
      included := all.included.including (found.included.map (·.2))
      excluded := all.excluded.including (found.excluded.map (·.2)) }

/-- Runs the transition of one group of rules. -/
def executeGroup (now : Instant) (s : Spec) (t : Transition) (rules : List Rule) (h : History) :
    Run σ Report := do
  let all ← selectGroup now rules {}
  let targets := all.included.filter fun (k, _) => !all.excluded.contains k
  let report ← Run.lift (t.run s.storeDeleted (targets.map (·.2)) h)
  return report.adding [] (all.excluded.map fun (k, _) => ⟨k.text, excludedByRule⟩)

/-- Runs the transitions of several groups of rules. -/
def executeGroups (now : Instant) (s : Spec) (isActive : Bool) (range : Option Nat) (h : History) :
    List (Action × List Rule) → Run σ (List Report)
  | [] => pure []
  | (action, rules) :: rest => do
    match Transition.resolve action isActive s range with
    | none => executeGroups now s isActive range h rest
    | some t =>
      let report ← executeGroup now s t rules h
      let reports ← executeGroups now s isActive range h rest
      return report :: reports

/-- Runs all rules of a spec, given whether its schedule is active and in which range. -/
def execute (now : Instant) (s : Spec) (isActive : Bool) (range : Option Nat) (h : History) :
    Run σ (List Report) :=
  executeGroups now s isActive range h (ruleGroups s)

end

end Slumber
