import Slumber.Status.Basic

/-!
# Bounded histories

A `History` keeps the last revisions in ascending order of their numbers, at most `capacity` of
them. `History.add` puts a revision at the end and drops the oldest one of a full history;
`History.mergeIntoLatest?` enters objects into the last revision instead. `History.countBefore?`
looks up how many replicas an object had before it was put to sleep or scaled.
-/

namespace Slumber

/-- Revisions in ascending order of their numbers, and how many are kept. -/
structure History where
  entries : List Revision
  capacity : Nat
deriving DecidableEq, Repr

/-- Puts `item` in the place of the first item of the same key, or at the end. -/
def upsert {α : Type} (key : α → String) (item : α) : List α → List α
  | [] => [item]
  | x :: xs => if key x = key item then item :: xs else x :: upsert key item xs

namespace History

/-- The history of recorded revisions: in order of their numbers, without the oldest beyond the
capacity. At least one revision is kept. -/
def ofEntries (entries : List Revision) (capacity : Nat) : History :=
  let capacity := max capacity 1
  let sorted := entries.mergeSort fun a b => a.id ≤ b.id
  ⟨sorted.drop (sorted.length - capacity), capacity⟩

/-- The number of revisions. -/
def size (h : History) : Nat :=
  h.entries.length

/-- The last revision. -/
def latest? (h : History) : Option Revision :=
  h.entries.getLast?

/-- The number of the next revision. -/
def nextId (h : History) : Int64 :=
  match h.latest? with
  | some r => r.id + 1
  | none => 0

/-- The history with one more revision, without the oldest one if it was full. -/
def add (h : History) (time : Instant) (action : Action) (impacted : List ImpactedObject)
    (excluded : List ExcludedObject) : History :=
  let kept := if h.capacity ≤ h.size then h.entries.drop 1 else h.entries
  { h with entries := kept ++ [⟨time, h.nextId, action, impacted, excluded⟩] }

/-- A revision at a later time with more objects: an object takes the place of an earlier entry of
the same key. -/
def mergeInto (r : Revision) (time : Instant) (impacted : List ImpactedObject)
    (excluded : List ExcludedObject) : Revision :=
  { r with
    time
    impacted := impacted.foldl (fun os o => upsert (·.key) o os) r.impacted
    excluded := excluded.foldl (fun os o => upsert (·.key) o os) r.excluded }

/-- The history with objects entered into its last revision, if that has the same action. -/
def mergeIntoLatest? (h : History) (time : Instant) (action : Action)
    (impacted : List ImpactedObject) (excluded : List ExcludedObject) : Option History :=
  match h.latest? with
  | some r =>
    if r.action = action then
      some { h with entries := h.entries.dropLast ++ [mergeInto r time impacted excluded] }
    else none
  | none => none

/-- The count that a revision records for an object: only a revision that lowers counts does, and
only for objects with which all went well. -/
def recordedCount? (key : String) (r : Revision) : Option Int32 :=
  if r.action = .hibernate ∨ r.action = .scale then
    (r.impacted.find? fun o => o.key = key ∧ o.status = .success).map (·.countBefore)
  else none

/-- The count that an object had, by the last revision that records one. -/
def countBefore? (h : History) (key : String) : Option Int32 :=
  h.entries.reverse.findSome? (recordedCount? key)

theorem ofEntries_capacity_pos (entries : List Revision) (capacity : Nat) :
    0 < (ofEntries entries capacity).capacity := by
  simp only [ofEntries]
  omega

theorem size_ofEntries_le (entries : List Revision) (capacity : Nat) :
    (ofEntries entries capacity).size ≤ (ofEntries entries capacity).capacity := by
  simp only [ofEntries, size, List.length_drop]
  omega

theorem size_add_le (h : History) (time : Instant) (action : Action)
    (impacted : List ImpactedObject) (excluded : List ExcludedObject) (hpos : 0 < h.capacity)
    (hle : h.size ≤ h.capacity) :
    (h.add time action impacted excluded).size
      ≤ (h.add time action impacted excluded).capacity := by
  simp only [add, size] at *
  by_cases hfull : h.capacity ≤ h.entries.length
  · simp only [hfull, if_true, List.length_append, List.length_drop, List.length_singleton]
    omega
  · simp only [hfull, if_false, List.length_append, List.length_singleton]
    omega

end History

end Slumber
