import Slumber.Spec.Basic
import Slumber.Status.Basic

/-!
# Transitions

An action and the state of the schedule together give a transition: what is done to the selected
objects now. Outside the windows every action but deletion means to wake objects up, and deletion
means nothing. A `Report` is the outcome of one transition.
-/

namespace Slumber

/-- What is done to objects now. -/
inductive Transition where
  /-- Scale to zero. -/
  | hibernate
  /-- Restore the count from before. -/
  | unhibernate
  | delete
  /-- Scale to a count, and set the resources of containers. -/
  | scale (replicas : Option Int32) (resources : Option (FiniteMap String ContainerResources))
deriving DecidableEq, Repr

/-- The entry of a list for a range of the schedule; without a range, or with one beyond the list,
the last entry. -/
def pick? {α : Type} (targets : List α) (range : Option Nat) : Option α :=
  (range.bind (targets[·]?)) <|> targets.getLast?

namespace Transition

/-- The transition of an action, given whether the schedule is active and in which range. -/
def resolve (action : Action) (isActive : Bool) (s : Spec) (range : Option Nat) :
    Option Transition :=
  match action, isActive with
  | .hibernate, true => some .hibernate
  | .delete, true => some .delete
  | .delete, false => none
  | .scale, true => some (.scale (pick? s.targetReplicas range) (pick? s.targetResources range))
  | _, _ => some .unhibernate

/-- The action that is recorded for a transition. -/
def action : Transition → Action
  | .hibernate => .hibernate
  | .unhibernate => .unhibernate
  | .delete => .delete
  | .scale _ _ => .scale

/-- Whether a transition leaves objects with less than they had. -/
def isHibernating : Transition → Bool
  | .unhibernate => false
  | _ => true

end Transition

/-- The outcome of a transition. -/
structure Report where
  action : Action
  impacted : List ImpactedObject := []
  excluded : List ExcludedObject := []
deriving DecidableEq, Repr

namespace Report

/-- How many operations failed. -/
def failures (r : Report) : Nat :=
  r.impacted.countP fun o => o.status = .error

/-- A report with more objects. -/
def adding (r : Report) (impacted : List ImpactedObject) (excluded : List ExcludedObject) :
    Report :=
  { r with impacted := r.impacted ++ impacted, excluded := r.excluded ++ excluded }

end Report

end Slumber
