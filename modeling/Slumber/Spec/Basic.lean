import Slumber.Schedule.Window
import Slumber.Spec.Action

/-!
# What is to be put to sleep, and when

A `Spec` is what a user asks for: a weekly schedule, rules that select objects, an action, and
settings for pauses, for looking again, and for the history. A `Rule` selects what its inclusions
match and its exclusions do not, and may have an action of its own.
-/

namespace Slumber

/-- Which objects are meant: by labels, names, types and field expressions. Names and types are
lists with commas. -/
structure ObjectSelector where
  labels : List String := []
  name : String := ""
  type : String
  fields : List String := []
deriving DecidableEq, Repr

/-- Which namespaces are meant. No name, or the name `all`, leaves it to the labels and field
expressions. -/
structure NamespaceSelector where
  labels : List String := []
  name : String := ""
  fields : List String := []
deriving DecidableEq, Repr

/-- Objects in namespaces. -/
structure Selector where
  objects : ObjectSelector
  namespaces : NamespaceSelector := {}
deriving DecidableEq, Repr

/-- A selection of objects. -/
structure Rule where
  inclusions : List Selector := []
  exclusions : List Selector := []
  action : Option Action := none
deriving DecidableEq, Repr

/-- The resources that a container asks for and is limited to, as quantities by resource name. -/
structure ContainerResources where
  requests : FiniteMap String String := []
  limits : FiniteMap String String := []
deriving DecidableEq, Repr

/-- What a user asks for. `targetReplicas` and `targetResources` have one entry for each range of
the schedule, for use by the action `scale`. -/
structure Spec where
  schedule : WeeklySchedule := {}
  rules : List Rule := []
  forceActive : Bool := false
  forceInactive : Bool := false
  resyncInterval : Int64 := 0
  pause : Bool := false
  pauseUntil : Option ZonedDateTime := none
  revisionLimit : Option Int32 := none
  action : Action := .hibernate
  storeDeleted : Bool := false
  targetReplicas : List Int32 := []
  targetResources : List (FiniteMap String ContainerResources) := []
deriving DecidableEq, Repr

/-- How many history entries are kept when no positive limit is asked for. -/
def defaultRevisionLimit : Nat := 10

/-- How many history entries are kept. -/
def Spec.historyLimit (s : Spec) : Nat :=
  match s.revisionLimit with
  | some n => if 0 < n.toInt then n.toInt.toNat else defaultRevisionLimit
  | none => defaultRevisionLimit

theorem Spec.historyLimit_pos (s : Spec) : 0 < s.historyLimit := by
  unfold Spec.historyLimit
  split
  · split
    · omega
    · decide
  · decide

end Slumber
