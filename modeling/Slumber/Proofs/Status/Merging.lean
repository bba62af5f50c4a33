import Slumber.Proofs.Status.Retention

/-!
# What merging leaves of a record

When a report is merged into the last revision, an object takes the place of the first entry of its
key, whatever became of it. So of several objects of one key in the report the last one stays, and a
success that was recorded before is still there afterwards unless that last one is a failure. Then
it is lost, and with it the count that the object is restored to.

* `Revision.success?` — the entry of a key that a count is looked up in;
* `entriesOf_foldl_upsert` — the entries of a key after others were entered;
* `Revision.success?_mergeInto` — what went well for a key after a merge;
* `merge_keeps_success` — successes and counts that a merge leaves;
* `failure_erases_success` — a failure in a later report that takes the place of a success.
-/

namespace Slumber

/-- The entry of a revision that tells how an object was changed: the first of its key for which all
went well. -/
def Revision.success? (r : Revision) (key : String) : Option ImpactedObject :=
  r.impacted.find? fun o => o.key = key ∧ o.status = .success

/-- The entries of a key. -/
def entriesOf (key : String) (os : List ImpactedObject) : List ImpactedObject :=
  os.filter (·.key = key)

/-- The last entry of a key for which all went well. -/
def lastSuccess? (key : String) (os : List ImpactedObject) : Option ImpactedObject :=
  ((entriesOf key os).filter (·.status = .success)).getLast?

/-- The last entry of a key is a failure. -/
def EndsInFailure (key : String) (os : List ImpactedObject) : Prop :=
  ∃ o, (entriesOf key os).getLast? = some o ∧ o.status = .error

instance (key : String) (os : List ImpactedObject) : Decidable (EndsInFailure key os) :=
  decidable_of_iff ((entriesOf key os).getLast?.any (·.status = .error) = true)
    (by simp [EndsInFailure, Option.any_eq_true])

variable {key : String} {os new old : List ImpactedObject} {o s : ImpactedObject} {r : Revision}

theorem entriesOf_cons (key : String) (o : ImpactedObject) (os : List ImpactedObject) :
    entriesOf key (o :: os) = if o.key = key then o :: entriesOf key os else entriesOf key os := by
  simp [entriesOf, List.filter_cons]

theorem Revision.success?_eq (r : Revision) (key : String) :
    r.success? key = (entriesOf key r.impacted).find? (·.status = .success) := by
  unfold success? entriesOf
  rw [List.find?_filter]
  simp

theorem not_endsInFailure_iff :
    ¬ EndsInFailure key os
      ↔ ∀ o, (entriesOf key os).getLast? = some o → o.status = .success := by
  constructor
  · intro hends o hlast
    cases ho : o.status with
    | success => rfl
    | error => exact absurd ⟨o, hlast, ho⟩ hends
  · rintro hall ⟨o, hlast, ho⟩
    rw [hall o hlast] at ho
    cases ho

/-- Of objects with different keys at most one has the key. -/
theorem tail_entriesOf_of_nodup (hkeys : (os.map (·.key)).Nodup) :
    (entriesOf key os).tail = [] := by
  induction os with
  | nil => rfl
  | cons o os ih =>
      obtain ⟨hfresh, hrest⟩ := List.nodup_cons.1 hkeys
      rw [entriesOf_cons]
      split
      · rename_i ho
        refine List.filter_eq_nil_iff.2 fun x hx hkey => hfresh ?_
        have hsame : o.key = x.key := ho.trans (of_decide_eq_true hkey).symm
        exact List.mem_map.2 ⟨x, hx, hsame.symm⟩
      · exact ih hrest

/-- A last entry for which all went well is the last one of those. -/
theorem lastSuccess?_of_getLast? (hlast : (entriesOf key os).getLast? = some o)
    (ho : o.status = .success) : lastSuccess? key os = some o := by
  obtain ⟨front, hfront⟩ := List.getLast?_eq_some_iff.1 hlast
  simp [lastSuccess?, hfront, List.filter_append, ho]

/-! ### Entering objects -/

/-- An object takes the place of the first entry of its key. -/
theorem entriesOf_upsert (key : String) (x : ImpactedObject) (items : List ImpactedObject) :
    entriesOf key (upsert (·.key) x items)
      = if x.key = key then x :: (entriesOf key items).tail else entriesOf key items := by
  induction items with
  | nil => simp [upsert, entriesOf, List.filter_cons]
  | cons y items ih =>
      unfold upsert
      by_cases hyx : y.key = x.key
      · by_cases hx : x.key = key <;> simp [entriesOf_cons, hyx, hx]
      · rw [if_neg hyx, entriesOf_cons, ih]
        by_cases hy : y.key = key
        · have hx : x.key ≠ key := fun hx => hyx (hy.trans hx.symm)
          simp [entriesOf_cons, hy, hx]
        · simp [entriesOf_cons, hy]

/-- Of several objects of a key the last one takes the place of the first entry. -/
theorem entriesOf_foldl_upsert (key : String) (new old : List ImpactedObject) :
    entriesOf key (new.foldl (fun os o => upsert (·.key) o os) old)
      = match (entriesOf key new).getLast? with
        | none => entriesOf key old
        | some o => o :: (entriesOf key old).tail := by
  induction new generalizing old with
  | nil => rfl
  | cons x new ih =>
      rw [List.foldl_cons, ih, entriesOf_upsert, entriesOf_cons]
      by_cases hx : x.key = key
      · rw [if_pos hx, if_pos hx, List.getLast?_cons]
        cases (entriesOf key new).getLast? <;> rfl
      · rw [if_neg hx, if_neg hx]

/-- **What went well for a key after a merge**: what the last object of the key in the report says,
if it is no failure; behind a failure, what stood behind the first entry of the key. -/
theorem Revision.success?_mergeInto (r : Revision) (time : Instant) (impacted : List ImpactedObject)
    (excluded : List ExcludedObject) (key : String) :
    (History.mergeInto r time impacted excluded).success? key
      = match (entriesOf key impacted).getLast? with
        | none => r.success? key
        | some o =>
          if o.status = .success then some o
          else (entriesOf key r.impacted).tail.find? (·.status = .success) := by
  have himpacted : (History.mergeInto r time impacted excluded).impacted
      = impacted.foldl (fun os o => upsert (·.key) o os) r.impacted := rfl
  rw [success?_eq, success?_eq, himpacted, entriesOf_foldl_upsert]
  cases (entriesOf key impacted).getLast? with
  | none => rfl
  | some o => by_cases ho : o.status = .success <;> simp [ho]

/-- A success is still there unless the report ends in a failure for its key. -/
theorem Revision.success?_mergeInto_of_not_endsInFailure (hs : r.success? key = some s)
    {impacted : List ImpactedObject} (hends : ¬ EndsInFailure key impacted) (time : Instant)
    (excluded : List ExcludedObject) :
    (History.mergeInto r time impacted excluded).success? key
      = some ((lastSuccess? key impacted).getD s) := by
  rw [success?_mergeInto]
  cases hlast : (entriesOf key impacted).getLast? with
  | none =>
      have hnone : lastSuccess? key impacted = none := by
        rw [lastSuccess?, List.getLast?_eq_none_iff.1 hlast]
        rfl
      rw [hnone]
      exact hs
  | some o =>
      have ho := not_endsInFailure_iff.1 hends o hlast
      rw [lastSuccess?_of_getLast? hlast ho]
      exact if_pos ho

/-- A failure takes the place of a success, if there is no other entry of the key. -/
theorem Revision.success?_mergeInto_of_endsInFailure (hkeys : (r.impacted.map (·.key)).Nodup)
    {impacted : List ImpactedObject} (hends : EndsInFailure key impacted) (time : Instant)
    (excluded : List ExcludedObject) :
    (History.mergeInto r time impacted excluded).success? key = none := by
  obtain ⟨o, hlast, ho⟩ := hends
  rw [success?_mergeInto, hlast, tail_entriesOf_of_nodup hkeys]
  simp [ho]

/-! ### Merging into a history -/

namespace History

variable {h h' : History} {time : Instant} {action : Action} {impacted : List ImpactedObject}
  {excluded : List ExcludedObject}

/-- A merge changes the last revision and no other. -/
theorem mergeIntoLatest?_eq_some (hmerge : h.mergeIntoLatest? time action impacted excluded
    = some h') :
    ∃ older last, h.entries = older ++ [last] ∧ last.action = action
      ∧ h' = { h with entries := older ++ [mergeInto last time impacted excluded] } := by
  unfold mergeIntoLatest? at hmerge
  split at hmerge
  · rename_i last hlast
    split at hmerge
    · rename_i haction
      obtain ⟨older, hentries⟩ := List.getLast?_eq_some_iff.1 hlast
      refine ⟨older, last, hentries, haction, ?_⟩
      rw [← Option.some.inj hmerge, hentries, List.dropLast_concat]
    · cases hmerge
  · cases hmerge

theorem recordedCount?_eq (key : String) (r : Revision) :
    recordedCount? key r = if r.lowers then (r.success? key).map (·.countBefore) else none := by
  unfold recordedCount? Revision.lowers Revision.success?
  simp only [decide_eq_true_eq]

theorem countBefore?_concat {older : List Revision} {last : Revision}
    (hentries : h.entries = older ++ [last]) (key : String) :
    h.countBefore? key
      = (recordedCount? key last).or (older.reverse.findSome? (recordedCount? key)) := by
  unfold countBefore?
  rw [hentries, List.reverse_append, List.reverse_singleton, List.singleton_append,
    List.findSome?_cons]
  cases recordedCount? key last <;> rfl

end History

open History

/-- **Successes stay recorded.**  After a merge into the last revision, for every key for which the
report does not end in a failure: a success that the revision had recorded is there, replaced by the
last success of the report if it has one, and the count before is the same or that of a success in
the report. If the report ends in a failure for a key, only what stood behind the first entry of the
key is left; so of a revision with one entry for each key, a success stays just when the report does
not end in a failure. -/
theorem merge_keeps_success {h h' : History} {time : Instant} {action : Action}
    {impacted : List ImpactedObject} {excluded : List ExcludedObject}
    (hmerge : h.mergeIntoLatest? time action impacted excluded = some h') :
    ∃ last merged, h.latest? = some last ∧ h'.latest? = some merged ∧ ∀ key : String,
      (¬ EndsInFailure key impacted →
        (∀ s, last.success? key = some s →
          merged.success? key = some ((lastSuccess? key impacted).getD s))
        ∧ (h'.countBefore? key = h.countBefore? key
          ∨ ∃ o ∈ impacted, o.key = key ∧ o.status = .success
            ∧ h'.countBefore? key = some o.countBefore))
      ∧ (EndsInFailure key impacted →
        merged.success? key = (entriesOf key last.impacted).tail.find? (·.status = .success))
      ∧ ((last.impacted.map (·.key)).Nodup → ∀ s, last.success? key = some s →
        ((∃ o, merged.success? key = some o) ↔ ¬ EndsInFailure key impacted)) := by
  obtain ⟨older, last, hentries, -, rfl⟩ := mergeIntoLatest?_eq_some hmerge
  have hlatest : h.latest? = some last := by rw [latest?, hentries, List.getLast?_concat]
  refine ⟨last, mergeInto last time impacted excluded, hlatest, List.getLast?_concat, fun key =>
    ⟨fun hends => ⟨fun s hs => ?_, ?_⟩, fun hends => ?_, fun hkeys s hs => ⟨?_, fun hends => ?_⟩⟩⟩
  · exact Revision.success?_mergeInto_of_not_endsInFailure hs hends time excluded
  · rw [countBefore?_concat hentries, countBefore?_concat rfl, recordedCount?_eq,
      recordedCount?_eq, Revision.success?_mergeInto]
    have hlowers : (mergeInto last time impacted excluded).lowers = last.lowers := rfl
    rw [hlowers]
    cases hlast : (entriesOf key impacted).getLast? with
    | none => exact .inl rfl
    | some o =>
        have ho := not_endsInFailure_iff.1 hends o hlast
        obtain ⟨hmem, hkey⟩ := List.mem_filter.1 (List.mem_of_getLast? hlast)
        cases last.lowers with
        | false => exact .inl rfl
        | true => exact .inr ⟨o, hmem, of_decide_eq_true hkey, ho, by simp [ho]⟩
  · obtain ⟨o, hlast, ho⟩ := hends
    rw [Revision.success?_mergeInto, hlast]
    simp [ho]
  · rintro ⟨o, ho⟩ hends
    rw [Revision.success?_mergeInto_of_endsInFailure hkeys hends] at ho
    cases ho
  · exact ⟨_, Revision.success?_mergeInto_of_not_endsInFailure hs hends time excluded⟩

/-- The key of a workload that sleeps. -/
def sleeperKey : String := "/prod/apps/v1/Deployment/web"

/-- The key of another workload that sleeps. -/
def secondSleeperKey : String := "/prod/apps/v1/Deployment/worker"

/-- Two workloads were put to sleep. -/
def sleepersHistory : History :=
  ⟨[{ time := ⟨1704067200, 0⟩, id := 0, action := .hibernate,
      impacted := [{ key := sleeperKey, countBefore := 3 },
        { key := secondSleeperKey, countBefore := 2 }] }], 10⟩

/-- The first of them is put to sleep again, at the second attempt. -/
def sleptAgain : List ImpactedObject :=
  [{ key := sleeperKey, countBefore := 4, message := "conflict", status := .error },
    { key := sleeperKey, countBefore := 5 }]

/-- Both successes are still there, the first with the count of the second attempt. -/
theorem merge_keeps_success_slept_again :
    ¬ EndsInFailure sleeperKey sleptAgain ∧ ¬ EndsInFailure secondSleeperKey sleptAgain
    ∧ ∃ h' merged,
      sleepersHistory.mergeIntoLatest? ⟨1704070800, 0⟩ .hibernate sleptAgain [] = some h'
      ∧ h'.latest? = some merged
      ∧ merged.success? sleeperKey = some { key := sleeperKey, countBefore := 5 }
      ∧ merged.success? secondSleeperKey = some { key := secondSleeperKey, countBefore := 2 } := by
  have hfirst : ¬ EndsInFailure sleeperKey sleptAgain := by decide
  have hsecond : ¬ EndsInFailure secondSleeperKey sleptAgain := by decide
  obtain ⟨h', hmerge⟩ : ∃ h', sleepersHistory.mergeIntoLatest? ⟨1704070800, 0⟩ .hibernate
      sleptAgain [] = some h' := ⟨_, rfl⟩
  obtain ⟨last, merged, hlast, hmerged, hall⟩ := merge_keeps_success hmerge
  cases hlast
  exact ⟨hfirst, hsecond, h', merged, hmerge, hmerged, ((hall sleeperKey).1 hfirst).1 _ rfl,
    ((hall secondSleeperKey).1 hsecond).1 _ rfl⟩

/-- A workload that sleeps is scaled up by someone else, and cannot be put to sleep again. -/
def refusedAgain : List ImpactedObject :=
  [{ key := sleeperKey, countBefore := 3, message := "conflict", status := .error }]

/-- What the history is then. -/
def refusedHistory : History :=
  ⟨[{ time := ⟨1704070800, 0⟩, id := 0, action := .hibernate,
      impacted := refusedAgain ++ [{ key := secondSleeperKey, countBefore := 2 }] }], 10⟩

/-- **A failure erases a success.**  The workload was put to sleep with three replicas, and when a
later attempt fails, the history knows of no success and no count for it. -/
theorem failure_erases_success :
    sleepersHistory.mergeIntoLatest? ⟨1704070800, 0⟩ .hibernate refusedAgain []
      = some refusedHistory
    ∧ sleepersHistory.latest?.bind (·.success? sleeperKey)
      = some { key := sleeperKey, countBefore := 3 }
    ∧ refusedHistory.latest?.bind (·.success? sleeperKey) = none
    ∧ sleepersHistory.countBefore? sleeperKey = some 3
    ∧ refusedHistory.countBefore? sleeperKey = none := by
  decide

end Slumber
