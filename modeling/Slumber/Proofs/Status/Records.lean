import Slumber.Controller.Tick

/-!
# What histories record

A history only ever holds what was reported. So a property that holds of every object that it
records, and of every object in the reports that are entered into it, holds of every object that it
records afterwards, whichever revisions were dropped or merged in between.

* `Records` — every recorded object has a property;
* `Records.entering`, `Records.ofEntries` — entering reports and reading a history keep that;
* `History.time_of_mem_foldl_entering` — a revision is as old as it was, or from the time of entry;
* `History.exists_of_countBefore?` — a count that is looked up is the count of a recorded object.
-/

namespace Slumber

/-- Every object that the revisions record has the property. -/
def Records (entries : List Revision) (good : ImpactedObject → Prop) : Prop :=
  ∀ r ∈ entries, ∀ o ∈ r.impacted, good o

variable {good : ImpactedObject → Prop} {h : History}

theorem mem_upsert {α : Type} {key : α → String} {x y : α} {items : List α}
    (h : y ∈ upsert key x items) : y = x ∨ y ∈ items := by
  induction items with
  | nil => exact .inl (List.mem_singleton.1 h)
  | cons z items ih =>
      unfold upsert at h
      split at h
      · rcases List.mem_cons.1 h with h | h
        · exact .inl h
        · exact .inr (List.mem_cons_of_mem _ h)
      · rcases List.mem_cons.1 h with h | h
        · exact .inr (by rw [h]; exact List.mem_cons_self)
        · rcases ih h with h | h
          · exact .inl h
          · exact .inr (List.mem_cons_of_mem _ h)

/-- Objects that are entered one after the other are among the new or the old ones. -/
theorem mem_foldl_upsert {new old : List ImpactedObject} {o : ImpactedObject}
    (h : o ∈ new.foldl (fun os o => upsert (·.key) o os) old) : o ∈ new ∨ o ∈ old := by
  induction new generalizing old with
  | nil => exact .inr h
  | cons x new ih =>
      rw [List.foldl_cons] at h
      rcases ih h with h | h
      · exact .inl (List.mem_cons_of_mem _ h)
      · rcases mem_upsert h with h | h
        · exact .inl (by rw [h]; exact List.mem_cons_self)
        · exact .inr h

/-- Reading a history drops revisions at most. -/
theorem mem_ofEntries {entries : List Revision} {capacity : Nat} {r : Revision}
    (hr : r ∈ (History.ofEntries entries capacity).entries) : r ∈ entries := by
  have hsorted := List.mem_of_mem_drop hr
  exact List.mem_mergeSort.1 hsorted

namespace Records

theorem nil (good : ImpactedObject → Prop) : Records [] good :=
  fun _ h => (nomatch h)

theorem of_subset {entries entries' : List Revision} (h : Records entries good)
    (hsub : ∀ r ∈ entries', r ∈ entries) : Records entries' good :=
  fun r hr => h r (hsub r hr)

theorem ofEntries {entries : List Revision} (h : Records entries good) (capacity : Nat) :
    Records (History.ofEntries entries capacity).entries good :=
  h.of_subset fun _ hr => mem_ofEntries hr

theorem add (hh : Records h.entries good) {impacted : List ImpactedObject}
    (hnew : ∀ o ∈ impacted, good o) (time : Instant) (action : Action)
    (excluded : List ExcludedObject) :
    Records (h.add time action impacted excluded).entries good := by
  intro r hr
  rcases List.mem_append.1 hr with hr | hr
  · refine hh r ?_
    split at hr
    · exact List.mem_of_mem_drop hr
    · exact hr
  · rw [List.mem_singleton.1 hr]
    exact hnew

theorem mergeIntoLatest? {h' : History} (hh : Records h.entries good)
    {impacted : List ImpactedObject} (hnew : ∀ o ∈ impacted, good o) {time : Instant}
    {action : Action} {excluded : List ExcludedObject}
    (hmerge : h.mergeIntoLatest? time action impacted excluded = some h') :
    Records h'.entries good := by
  unfold History.mergeIntoLatest? at hmerge
  split at hmerge
  · rename_i last hlast
    split at hmerge
    · cases hmerge
      intro r hr
      rcases List.mem_append.1 hr with hr | hr
      · exact hh r (List.mem_of_mem_take (List.dropLast_eq_take ▸ hr))
      · rw [List.mem_singleton.1 hr]
        intro o ho
        rcases mem_foldl_upsert ho with ho | ho
        · exact hnew o ho
        · exact hh last (List.mem_of_getLast? hlast) o ho
    · cases hmerge
  · cases hmerge

/-- Entering a report. -/
theorem entering (hh : Records h.entries good) {r : Report} (hr : ∀ o ∈ r.impacted, good o)
    (now : Instant) (resync : Bool) : Records (h.entering now resync r).entries good := by
  unfold History.entering
  split
  · exact hh
  · have hadd := hh.add hr now r.action r.excluded
    dsimp only
    split
    · cases hmerge : h.mergeIntoLatest? now r.action r.impacted r.excluded with
      | none => exact hadd
      | some h' => exact hh.mergeIntoLatest? hr hmerge
    · exact hadd

/-- Entering several reports. -/
theorem foldl_entering (hh : Records h.entries good) {reports : List Report}
    (hr : ∀ r ∈ reports, ∀ o ∈ r.impacted, good o) (now : Instant) (resync : Bool) :
    Records (reports.foldl (fun h r => h.entering now resync r) h).entries good := by
  induction reports generalizing h with
  | nil => exact hh
  | cons r reports ih =>
      rw [List.foldl_cons]
      exact ih (hh.entering (hr r List.mem_cons_self) now resync)
        fun r' hr' => hr r' (List.mem_cons_of_mem _ hr')

end Records

/-! ### Times -/

namespace History

theorem time_of_mem_add {time : Instant} {action : Action} {impacted : List ImpactedObject}
    {excluded : List ExcludedObject} {r : Revision}
    (hr : r ∈ (h.add time action impacted excluded).entries) : r.time = time ∨ r ∈ h.entries := by
  rcases List.mem_append.1 hr with hr | hr
  · refine .inr ?_
    split at hr
    · exact List.mem_of_mem_drop hr
    · exact hr
  · rw [List.mem_singleton.1 hr]
    exact .inl rfl

/-- Merging objects into a revision brings it to the new time. -/
theorem time_of_mem_mergeIntoLatest? {h' : History} {time : Instant} {action : Action}
    {impacted : List ImpactedObject} {excluded : List ExcludedObject} {r : Revision}
    (hmerge : h.mergeIntoLatest? time action impacted excluded = some h') (hr : r ∈ h'.entries) :
    r.time = time ∨ r ∈ h.entries := by
  unfold mergeIntoLatest? at hmerge
  split at hmerge
  · split at hmerge
    · cases hmerge
      rcases List.mem_append.1 hr with hr | hr
      · exact .inr (List.mem_of_mem_take (List.dropLast_eq_take ▸ hr))
      · rw [List.mem_singleton.1 hr]
        exact .inl rfl
    · cases hmerge
  · cases hmerge

theorem time_of_mem_entering {now : Instant} {resync : Bool} {report : Report} {r : Revision}
    (hr : r ∈ (h.entering now resync report).entries) : r.time = now ∨ r ∈ h.entries := by
  unfold entering at hr
  split at hr
  · exact .inr hr
  · dsimp only at hr
    split at hr
    · cases hmerge : h.mergeIntoLatest? now report.action report.impacted report.excluded with
      | none =>
          rw [hmerge] at hr
          exact time_of_mem_add hr
      | some h' =>
          rw [hmerge] at hr
          exact time_of_mem_mergeIntoLatest? hmerge hr
    · exact time_of_mem_add hr

/-- After some reports were entered a revision has the time of that, or was there before. -/
theorem time_of_mem_foldl_entering {now : Instant} {resync : Bool} {reports : List Report}
    {r : Revision}
    (hr : r ∈ (reports.foldl (fun h r => h.entering now resync r) h).entries) :
    r.time = now ∨ r ∈ h.entries := by
  induction reports generalizing h with
  | nil => exact .inr hr
  | cons report reports ih =>
      rw [List.foldl_cons] at hr
      rcases ih hr with hnow | hr
      · exact .inl hnow
      · exact time_of_mem_entering hr

end History

/-! ### Looking up a count -/

/-- A count that is looked up was recorded for an object of that key. -/
theorem History.exists_of_countBefore? {key : String} {n : Int32}
    (hn : h.countBefore? key = some n) :
    ∃ r ∈ h.entries, ∃ o ∈ r.impacted, o.key = key ∧ o.countBefore = n := by
  unfold countBefore? at hn
  obtain ⟨r, hr, hcount⟩ := List.exists_of_findSome?_eq_some hn
  refine ⟨r, List.mem_reverse.1 hr, ?_⟩
  unfold recordedCount? at hcount
  split at hcount
  · obtain ⟨o, ho, hn⟩ := Option.map_eq_some_iff.1 hcount
    have hkey := List.find?_some ho
    rw [decide_eq_true_eq] at hkey
    exact ⟨o, List.mem_of_find?_eq_some ho, hkey.1, hn⟩
  · cases hcount

end Slumber
