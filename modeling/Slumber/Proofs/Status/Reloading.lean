import Mathlib.Data.List.Nodup
import Slumber.Proofs.Status.Merging
import Slumber.Proofs.Status.Order

/-!
# Histories that are stored and read again

Between two looks a history is kept as a list of revisions, and is read from that list again. What
is read are the revisions with the greatest numbers, in ascending order, whatever the order of the
list. A history that was read, and to which revisions were added or objects merged since, is read
again as it is.

* `Ascending` — the numbers of revisions ascend;
* `ofEntries_perm`, `mem_ofEntries_or_lt` — reading does not depend on the order, and leaves out the
  least numbers;
* `History.Reached` — what becomes of a history by adding and merging;
* `History.IsBounded.reached` — the invariant: the numbers ascend and there is room for all;
* `reloading_loses_nothing` — storing and reading again, at any moment.
-/

namespace Slumber

open Decimal

variable {entries entries' : List Revision} {capacity : Nat} {r : Revision}

/-! ### Numbers in ascending order -/

/-- The numbers ascend. -/
def Ascending (entries : List Revision) : Prop :=
  entries.Pairwise fun a b => a.id < b.id

instance (entries : List Revision) : Decidable (Ascending entries) :=
  inferInstanceAs (Decidable (List.Pairwise _ _))

theorem ascending_iff_ids : Ascending entries ↔ (entries.map (·.id)).Pairwise (· < ·) := by
  unfold Ascending
  rw [List.pairwise_map]

namespace Ascending

theorem inOrder (h : Ascending entries) : InOrder entries :=
  h.imp fun hlt => decide_eq_true (Int64.le_of_lt hlt)

theorem eq_of_id_eq (h : Ascending entries) {a b : Revision} (ha : a ∈ entries)
    (hb : b ∈ entries) (hid : a.id = b.id) : a = b := by
  have hnodup : (entries.map (·.id)).Nodup :=
    (ascending_iff_ids.1 h).imp fun hlt => Int64.ne_of_lt hlt
  exact List.inj_on_of_nodup_map hnodup ha hb hid

/-- The last of revisions with ascending numbers is the one with the greatest number. -/
theorem getLast?_eq_some_iff (h : Ascending entries) :
    entries.getLast? = some r ↔ r ∈ entries ∧ ∀ e ∈ entries, e.id ≤ r.id := by
  constructor
  · intro hlast
    obtain ⟨older, rfl⟩ := List.getLast?_eq_some_iff.1 hlast
    exact ⟨by simp, fun e he => h.inOrder.id_le_last he⟩
  · rintro ⟨hr, hgreatest⟩
    cases hlast : entries.getLast? with
    | none =>
        rw [List.getLast?_eq_none_iff.1 hlast] at hr
        cases hr
    | some last =>
        have hmem := List.mem_of_getLast? hlast
        obtain ⟨older, rfl⟩ := List.getLast?_eq_some_iff.1 hlast
        have hid := Int64.le_antisymm (hgreatest last hmem) (h.inOrder.id_le_last hr)
        rw [h.eq_of_id_eq hmem hr hid]

/-- A revision with a greater number than all others. -/
theorem concat (h : Ascending entries) (hr : ∀ e ∈ entries, e.id < r.id) :
    Ascending (entries ++ [r]) :=
  List.pairwise_append.2 ⟨h, List.pairwise_singleton _ r, fun a ha b hb => by
    rw [List.mem_singleton.1 hb]
    exact hr a ha⟩

end Ascending

/-! ### Reading revisions -/

/-- Revisions with different numbers ascend when they are put in order. -/
theorem ascending_mergeSort (hids : (entries.map (·.id)).Nodup) :
    Ascending (entries.mergeSort fun a b => a.id ≤ b.id) := by
  have hsorted : InOrder (entries.mergeSort fun a b => a.id ≤ b.id) :=
    List.pairwise_mergeSort id_le_trans id_le_total entries
  have hnodup : ((entries.mergeSort fun a b => a.id ≤ b.id).map (·.id)).Nodup :=
    ((List.mergeSort_perm entries _).map _).nodup_iff.2 hids
  refine (hsorted.and (List.pairwise_map.1 hnodup)).imp fun ⟨hle, hne⟩ => ?_
  exact Int64.lt_of_le_of_ne (of_decide_eq_true hle) hne

/-- In whatever order revisions with different numbers are stored, the same history is read. -/
theorem ofEntries_perm (hids : (entries.map (·.id)).Nodup) (hperm : entries.Perm entries')
    (capacity : Nat) :
    History.ofEntries entries' capacity = History.ofEntries entries capacity := by
  have hsame : (entries'.mergeSort fun a b => a.id ≤ b.id)
      = entries.mergeSort fun a b => a.id ≤ b.id := by
    have hids' : (entries'.map (·.id)).Nodup := (hperm.map _).nodup_iff.1 hids
    refine List.Perm.eq_of_pairwise (fun a b _ _ hab hba => ?_) (ascending_mergeSort hids')
      (ascending_mergeSort hids) ?_
    · exact absurd hba (Int64.lt_asymm hab)
    · exact (List.mergeSort_perm _ _).trans (hperm.symm.trans (List.mergeSort_perm _ _).symm)
  unfold History.ofEntries
  rw [hsame]

theorem ascending_ofEntries (hids : (entries.map (·.id)).Nodup) (capacity : Nat) :
    Ascending (History.ofEntries entries capacity).entries :=
  (ascending_mergeSort hids).sublist (List.drop_sublist _ _)

theorem size_ofEntries (entries : List Revision) (capacity : Nat) :
    (History.ofEntries entries capacity).size = min entries.length (max capacity 1) := by
  simp only [History.ofEntries, History.size, List.length_drop, List.length_mergeSort]
  omega

/-- What is not read has a smaller number than all that is. -/
theorem mem_ofEntries_or_lt (hids : (entries.map (·.id)).Nodup) (capacity : Nat)
    (hr : r ∈ entries) :
    r ∈ (History.ofEntries entries capacity).entries
      ∨ ∀ e ∈ (History.ofEntries entries capacity).entries, r.id < e.id := by
  have hascending := ascending_mergeSort hids
  unfold History.ofEntries
  dsimp only
  generalize (entries.mergeSort fun a b => a.id ≤ b.id).length - max capacity 1 = n
  have hsplit := List.take_append_drop n (entries.mergeSort fun a b => a.id ≤ b.id)
  have hmem : r ∈ entries.mergeSort fun a b => a.id ≤ b.id := List.mem_mergeSort.2 hr
  rw [← hsplit] at hascending hmem
  rcases List.mem_append.1 hmem with hr | hr
  · exact .inr fun e he => (List.pairwise_append.1 hascending).2.2 r hr e he
  · exact .inl hr

/-- Reading under one bound and then under another is reading under the smaller of the two. -/
theorem ofEntries_ofEntries (entries : List Revision) (c₁ c₂ : Nat) :
    (History.ofEntries (History.ofEntries entries c₁).entries c₂).entries
      = (History.ofEntries entries (min (max c₁ 1) (max c₂ 1))).entries := by
  have hsorted : InOrder (entries.mergeSort fun a b => a.id ≤ b.id) :=
    List.pairwise_mergeSort id_le_trans id_le_total entries
  have hread : InOrder (History.ofEntries entries c₁).entries :=
    hsorted.sublist (List.drop_sublist _ _)
  rw [ofEntries_of_inOrder hread]
  unfold History.ofEntries
  dsimp only
  rw [List.drop_drop, List.length_drop]
  congr 1
  omega

/-! ### Adding and merging -/

namespace History

variable {h h' : History}

/-- What becomes of a history when revisions are added and objects are merged into the last one, as
long as there is a next number. A merge that is refused changes nothing. -/
inductive Reached (h : History) : History → Prop
  | start : Reached h h
  | add {h' : History} (hreached : Reached h h')
      (hfits : ∀ r ∈ h'.entries, r.id.toInt < maxSigned64) (time : Instant) (action : Action)
      (impacted : List ImpactedObject) (excluded : List ExcludedObject) :
      Reached h (h'.add time action impacted excluded)
  | merge {h' h'' : History} {time : Instant} {action : Action} {impacted : List ImpactedObject}
      {excluded : List ExcludedObject} (hreached : Reached h h')
      (hmerge : h'.mergeIntoLatest? time action impacted excluded = some h'') : Reached h h''

/-- The numbers ascend, and there is room for all revisions. -/
structure IsBounded (h : History) : Prop where
  ascending : Ascending h.entries
  room : 0 < h.capacity
  size_le : h.size ≤ h.capacity

theorem isBounded_ofEntries (hids : (entries.map (·.id)).Nodup) (capacity : Nat) :
    (ofEntries entries capacity).IsBounded :=
  ⟨ascending_ofEntries hids capacity, ofEntries_capacity_pos entries capacity,
    size_ofEntries_le entries capacity⟩

/-- The next number is greater than all others. -/
theorem IsBounded.id_lt_nextId (hbounded : h.IsBounded)
    (hfits : ∀ r ∈ h.entries, r.id.toInt < maxSigned64) :
    ∀ r ∈ h.entries, r.id < h.nextId := by
  intro r hr
  obtain ⟨older, last, hentries⟩ :=
    (List.eq_nil_or_concat' h.entries).resolve_left (List.ne_nil_of_mem hr)
  have hnext : nextNumber h.entries = last.id.toInt + 1 := by
    rw [hentries, nextNumber_concat]
  have hlast := hfits last (by simp [hentries])
  have hle : r.id ≤ last.id := by
    rw [hentries] at hr
    exact (hentries ▸ hbounded.ascending).inOrder.id_le_last hr
  rw [Int64.lt_iff_toInt_lt, toInt_nextId (by omega), hnext]
  rw [Int64.le_iff_toInt_le] at hle
  omega

theorem IsBounded.add (hbounded : h.IsBounded)
    (hfits : ∀ r ∈ h.entries, r.id.toInt < maxSigned64) (time : Instant) (action : Action)
    (impacted : List ImpactedObject) (excluded : List ExcludedObject) :
    (h.add time action impacted excluded).IsBounded := by
  refine ⟨?_, hbounded.room,
    size_add_le h time action impacted excluded hbounded.room hbounded.size_le⟩
  obtain ⟨n, hentries, -⟩ := entries_add h time action impacted excluded
  rw [hentries]
  exact Ascending.concat (hbounded.ascending.sublist (List.drop_sublist n _))
    fun e he => hbounded.id_lt_nextId hfits e (List.mem_of_mem_drop he)

/-- A merge changes no number. -/
theorem IsBounded.merge (hbounded : h.IsBounded) {time : Instant} {action : Action}
    {impacted : List ImpactedObject} {excluded : List ExcludedObject}
    (hmerge : h.mergeIntoLatest? time action impacted excluded = some h') : h'.IsBounded := by
  obtain ⟨older, last, hentries, -, rfl⟩ := mergeIntoLatest?_eq_some hmerge
  have hids : (older ++ [mergeInto last time impacted excluded]).map (·.id)
      = h.entries.map (·.id) := by
    rw [hentries, List.map_append, List.map_append]
    rfl
  refine ⟨?_, hbounded.room, ?_⟩
  · rw [ascending_iff_ids, hids]
    exact ascending_iff_ids.1 hbounded.ascending
  · have hsize := congrArg List.length hids
    simp only [List.length_map] at hsize
    rw [size, hsize]
    exact hbounded.size_le

/-- **The invariant.**  Adding and merging keep the numbers in order and the bound, and change no
capacity. -/
theorem IsBounded.reached (hbounded : h.IsBounded) (hreached : h.Reached h') :
    h'.IsBounded ∧ h'.capacity = h.capacity := by
  induction hreached with
  | start => exact ⟨hbounded, rfl⟩
  | add _ hfits time action impacted excluded ih =>
      exact ⟨ih.1.add hfits time action impacted excluded, ih.2⟩
  | merge _ hmerge ih =>
      refine ⟨ih.1.merge hmerge, ?_⟩
      obtain ⟨older, last, -, -, rfl⟩ := mergeIntoLatest?_eq_some hmerge
      exact ih.2

/-- Such a history is read again as it is. -/
theorem IsBounded.ofEntries_eq (hbounded : h.IsBounded) : ofEntries h.entries h.capacity = h := by
  have hsize : h.entries.length ≤ h.capacity := hbounded.size_le
  rw [ofEntries_of_inOrder hbounded.ascending.inOrder, Nat.max_eq_left hbounded.room,
    Nat.sub_eq_zero_of_le hsize, List.drop_zero]

/-- A capacity of 0 is one of 1. -/
theorem ofEntries_max (entries : List Revision) (capacity : Nat) :
    ofEntries entries (max capacity 1) = ofEntries entries capacity := by
  unfold ofEntries
  rw [Nat.max_assoc, Nat.max_self]

end History

open History

/-- **Reloading loses nothing.**  From revisions with different numbers, in any order, the same
history is read: as many of them as there is room for, those with the greatest numbers, in ascending
order. Every history that is reached from it by adding and merging, while there is a next number, is
read again as it is from its revisions, and its latest revision is the one with the greatest number.
Reading under two bounds, one after the other, keeps the revisions that the smaller bound keeps. -/
theorem reloading_loses_nothing (entries : List Revision) (hids : (entries.map (·.id)).Nodup)
    (capacity : Nat) :
    let read := ofEntries entries capacity
    (∀ entries', entries.Perm entries' → ofEntries entries' capacity = read)
    ∧ (Ascending read.entries ∧ read.size = min entries.length (max capacity 1)
      ∧ (∀ r ∈ read.entries, r ∈ entries)
      ∧ ∀ r ∈ entries, r ∈ read.entries ∨ ∀ e ∈ read.entries, r.id < e.id)
    ∧ (∀ h, read.Reached h → ofEntries h.entries capacity = h
      ∧ ∀ r, h.latest? = some r ↔ r ∈ h.entries ∧ ∀ e ∈ h.entries, e.id ≤ r.id)
    ∧ ∀ c₁ c₂, (ofEntries (ofEntries entries c₁).entries c₂).entries
      = (ofEntries entries (min (max c₁ 1) (max c₂ 1))).entries := by
  refine ⟨fun entries' hperm => ofEntries_perm hids hperm capacity,
    ⟨ascending_ofEntries hids capacity, size_ofEntries entries capacity,
      fun r hr => Slumber.mem_ofEntries hr, fun r hr => mem_ofEntries_or_lt hids capacity hr⟩,
    fun h hreached => ?_, ofEntries_ofEntries entries⟩
  obtain ⟨hbounded, hcapacity⟩ := (isBounded_ofEntries hids capacity).reached hreached
  refine ⟨?_, fun r => hbounded.ascending.getLast?_eq_some_iff⟩
  have hagain := hbounded.ofEntries_eq
  rwa [hcapacity, show (ofEntries entries capacity).capacity = max capacity 1 from rfl,
    ofEntries_max] at hagain

/-- Three revisions in no order, of which the last put two workloads to sleep. -/
def shuffledEntries : List Revision :=
  [{ time := ⟨1704070800, 0⟩, id := 5, action := .hibernate },
    { time := ⟨1704060000, 0⟩, id := 1, action := .hibernate },
    { time := ⟨1704067200, 0⟩, id := 3, action := .unhibernate }]

/-- The two revisions with the greatest numbers are read. When the second attempt to put the
workloads to sleep was merged into the last one and one more revision was added, the history is read
again as it is. -/
theorem reloading_loses_nothing_shuffled :
    (shuffledEntries.map (·.id)).Nodup
    ∧ (ofEntries shuffledEntries 2).entries.map (·.id) = [3, 5]
    ∧ ∃ h h', (ofEntries shuffledEntries 2).mergeIntoLatest? ⟨1704071000, 0⟩ .hibernate
        sleptAgain [] = some h
      ∧ h.add ⟨1704080000, 0⟩ .unhibernate [] [] = h'
      ∧ h'.entries.map (·.id) = [5, 6] ∧ ofEntries h'.entries 2 = h' := by
  have hids : (shuffledEntries.map (·.id)).Nodup := by decide
  have hfirst : ofEntries shuffledEntries 2
      = ⟨[⟨⟨1704067200, 0⟩, 3, .unhibernate, [], []⟩, ⟨⟨1704070800, 0⟩, 5, .hibernate, [], []⟩],
        2⟩ := by
    rw [← (reloading_loses_nothing shuffledEntries hids 2).1
        [⟨⟨1704060000, 0⟩, 1, .hibernate, [], []⟩, ⟨⟨1704067200, 0⟩, 3, .unhibernate, [], []⟩,
          ⟨⟨1704070800, 0⟩, 5, .hibernate, [], []⟩] (by decide),
      ofEntries_of_inOrder (by decide)]
    rfl
  have hmerge : (ofEntries shuffledEntries 2).mergeIntoLatest? ⟨1704071000, 0⟩ .hibernate
      sleptAgain [] = some ⟨[⟨⟨1704067200, 0⟩, 3, .unhibernate, [], []⟩,
        ⟨⟨1704071000, 0⟩, 5, .hibernate, [{ key := sleeperKey, countBefore := 5 }], []⟩], 2⟩ := by
    rw [hfirst]
    rfl
  have hreached :=
    (Reached.start.merge hmerge).add (by decide) ⟨1704080000, 0⟩ .unhibernate [] []
  exact ⟨hids, by rw [hfirst]; rfl, _, _, hmerge, rfl, rfl,
    ((reloading_loses_nothing shuffledEntries hids 2).2.2.1 _ hreached).1⟩

end Slumber
