import Mathlib.Data.List.Chain
import Slumber.Proofs.Status.Retention

/-!
# Histories in order

The revisions that looks leave behind are numbered one after the other, none of them is earlier than
the one before it, and each was for some object. Entering a report keeps all that: a revision of its
own gets the next number, and one that is merged into the latest revision gets none. A revision is
only dropped when its number is no longer among the last that the history has room for.

* `IsNewest`, `latest?_ofEntries` — which revision a look finds to be the latest;
* `IsWellFormed`, `nextNumber` — revisions in order, and the number that comes next;
* `History.appended` — how many revisions of their own some reports become;
* `History.IsOrderly.enteringAll` — entering reports keeps the order;
* `Survives`, `IsWellFormed.survives` — what becomes of a revision that is not dropped.
-/

namespace Slumber

open Decimal

/-! ### The newest revision -/

/-- The newest of some recorded revisions: none has a greater number, and of those with the same
number it is recorded last. -/
def IsNewest (entries : List Revision) (r : Revision) : Prop :=
  ∃ older newer, entries = older ++ r :: newer ∧ (∀ e ∈ older, e.id ≤ r.id)
    ∧ ∀ e ∈ newer, e.id < r.id

/-- Putting revisions in order of their numbers keeps those of one number as they are. -/
theorem filter_mergeSort_id (entries : List Revision) (n : Int64) :
    (entries.mergeSort fun a b => a.id ≤ b.id).filter (·.id = n)
      = entries.filter (·.id = n) := by
  have hsame : InOrder (entries.filter (·.id = n)) := by
    refine List.pairwise_of_forall_mem_list fun a ha b hb => ?_
    have hid : a.id = b.id := by
      simpa using (of_decide_eq_true (List.mem_filter.1 ha).2).trans
        (of_decide_eq_true (List.mem_filter.1 hb).2).symm
    exact decide_eq_true (hid ▸ Int64.le_refl _)
  have hsub := List.sublist_mergeSort id_le_trans id_le_total hsame List.filter_sublist
  have hsub' := hsub.filter (·.id = n)
  simp only [List.filter_filter, Bool.and_self] at hsub'
  exact (hsub'.eq_of_length ((List.mergeSort_perm _ _).symm.filter _).length_eq).symm

/-- The last of the revisions with a number is the last in front of those with other numbers. -/
theorem getLast?_filter_id (entries : List Revision) (r : Revision) :
    (entries.filter (·.id = r.id)).getLast? = some r
      ↔ ∃ older newer, entries = older ++ r :: newer ∧ ∀ e ∈ newer, e.id ≠ r.id := by
  rw [List.getLast?_filter, List.find?_eq_some_iff_append]
  constructor
  · rintro ⟨-, newer, older, hreverse, hnewer⟩
    refine ⟨older.reverse, newer.reverse, ?_, fun e he => ?_⟩
    · rw [← List.reverse_inj, hreverse]
      simp
    · simpa using hnewer e (List.mem_reverse.1 he)
  · rintro ⟨older, newer, rfl, hnewer⟩
    exact ⟨by simp, newer.reverse, older.reverse, by simp, fun e he => by
      simpa using hnewer e (List.mem_reverse.1 he)⟩

/-- Of revisions in order the last has the greatest number. -/
theorem InOrder.id_le_last {older : List Revision} {last e : Revision}
    (h : InOrder (older ++ [last])) (he : e ∈ older ++ [last]) : e.id ≤ last.id := by
  rcases List.mem_append.1 he with he | he
  · have hle := (List.pairwise_append.1 h).2.2 e he last (List.mem_singleton_self last)
    exact of_decide_eq_true hle
  · rw [List.mem_singleton.1 he]
    exact Int64.le_refl _

/-- The last of revisions in order has the greatest number, and is the last one that has it. -/
theorem InOrder.getLast?_eq_some_iff {sorted : List Revision} (h : InOrder sorted) {r : Revision} :
    sorted.getLast? = some r
      ↔ (∀ e ∈ sorted, e.id ≤ r.id) ∧ (sorted.filter (·.id = r.id)).getLast? = some r := by
  constructor
  · intro hlast
    obtain ⟨front, rfl⟩ := List.getLast?_eq_some_iff.1 hlast
    exact ⟨fun e he => h.id_le_last he, by simp⟩
  · rintro ⟨hgreatest, hfilter⟩
    cases hlast : sorted.getLast? with
    | none =>
        rw [List.getLast?_eq_none_iff.1 hlast] at hfilter
        cases hfilter
    | some last =>
        obtain ⟨front, rfl⟩ := List.getLast?_eq_some_iff.1 hlast
        have hr := (List.mem_filter.1 (List.mem_of_getLast? hfilter)).1
        have hid : last.id = r.id :=
          Int64.le_antisymm (hgreatest last (by simp)) (h.id_le_last hr)
        rw [List.filter_append, List.filter_cons_of_pos (by simpa using hid)] at hfilter
        simpa using hfilter

/-- The bound on a history, which is never 0, leaves the latest revision. -/
theorem latest?_ofEntries_eq (entries : List Revision) (capacity : Nat) :
    (History.ofEntries entries capacity).latest?
      = (entries.mergeSort fun a b => a.id ≤ b.id).getLast? := by
  unfold History.latest? History.ofEntries
  dsimp only
  rw [List.getLast?_drop]
  split
  · rename_i hempty
    have hnil : (entries.mergeSort fun a b => a.id ≤ b.id) = [] :=
      List.length_eq_zero_iff.1 (by omega)
    rw [hnil]
    rfl
  · rfl

/-- **The latest revision is the newest one**, whatever the bound on the history. -/
theorem latest?_ofEntries {entries : List Revision} {capacity : Nat} {r : Revision} :
    (History.ofEntries entries capacity).latest? = some r ↔ IsNewest entries r := by
  have hsorted : InOrder (entries.mergeSort fun a b => a.id ≤ b.id) :=
    List.pairwise_mergeSort id_le_trans id_le_total entries
  rw [latest?_ofEntries_eq, hsorted.getLast?_eq_some_iff, filter_mergeSort_id, getLast?_filter_id]
  simp only [List.mem_mergeSort]
  constructor
  · rintro ⟨hgreatest, older, newer, rfl, hnewer⟩
    exact ⟨older, newer, rfl, fun e he => hgreatest e (by simp [he]),
      fun e he => Int64.lt_of_le_of_ne (hgreatest e (by simp [he])) (hnewer e he)⟩
  · rintro ⟨older, newer, rfl, holder, hnewer⟩
    refine ⟨fun e he => ?_, older, newer, rfl, fun e he => Int64.ne_of_lt (hnewer e he)⟩
    rcases List.mem_append.1 he with he | he
    · exact holder e he
    · rcases List.mem_cons.1 he with rfl | he
      · exact Int64.le_refl _
      · exact Int64.le_of_lt (hnewer e he)

/-! ### Order -/

/-- Revisions in order: each has the number after that of the one before it, none is earlier than
one before it, and each was for some object. -/
structure IsWellFormed (entries : List Revision) : Prop where
  numbered : entries.IsChain fun a b => b.id.toInt = a.id.toInt + 1
  timely : entries.Pairwise fun a b => b.time.before a.time = false
  impacting : ∀ r ∈ entries, r.impacted ≠ []

/-- The number that comes after those of some revisions. -/
def nextNumber (entries : List Revision) : Int :=
  match entries.getLast? with
  | some r => r.id.toInt + 1
  | none => 0

theorem nextNumber_concat (older : List Revision) (last : Revision) :
    nextNumber (older ++ [last]) = last.id.toInt + 1 := by
  unfold nextNumber
  rw [List.getLast?_concat]

/-- Dropping the oldest of some revisions, but not all, leaves the number that comes next. -/
theorem nextNumber_drop {entries : List Revision} {n : Nat} (h : entries.drop n ≠ []) :
    nextNumber (entries.drop n) = nextNumber entries := by
  unfold nextNumber
  rw [List.getLast?_drop, if_neg fun hle => h (List.drop_eq_nil_of_le hle)]

theorem Instant.before_self (t : Instant) : t.before t = false := by
  simp [before]

namespace IsWellFormed

variable {entries older newer : List Revision} {r last : Revision} {now : Instant}

theorem nil : IsWellFormed [] :=
  ⟨.nil, .nil, fun _ h => (nomatch h)⟩

/-- A part of revisions in order is in order. -/
theorem of_part {part : List Revision} (h : IsWellFormed entries) (hpart : part <:+: entries) :
    IsWellFormed part where
  numbered := List.IsChain.infix h.numbered hpart
  timely := h.timely.sublist hpart.sublist
  impacting := fun r hr => h.impacting r (hpart.subset hr)

/-- The number of a revision tells how many others follow it. -/
theorem nextNumber_eq (h : IsWellFormed (older ++ r :: newer)) :
    nextNumber (older ++ r :: newer) = r.id.toInt + 1 + newer.length := by
  induction newer generalizing older r with
  | nil => rw [nextNumber_concat, List.length_nil, Int.ofNat_zero, Int.add_zero]
  | cons next newer ih =>
      have hnext := (List.isChain_append_cons_cons.1 h.numbered).2.1
      have hrest : older ++ r :: next :: newer = (older ++ [r]) ++ next :: newer := by simp
      rw [hrest] at h ⊢
      rw [ih h, hnext, List.length_cons]
      omega

theorem id_lt_nextNumber (h : IsWellFormed entries) (hr : r ∈ entries) :
    r.id.toInt < nextNumber entries := by
  obtain ⟨older, newer, rfl⟩ := List.append_of_mem hr
  have := h.nextNumber_eq
  omega

/-- The latest revision is the one whose number the next one follows. -/
theorem getLast?_eq_iff (h : IsWellFormed entries) (hr : r ∈ entries) :
    entries.getLast? = some r ↔ nextNumber entries = r.id.toInt + 1 := by
  constructor
  · intro hlast
    unfold nextNumber
    rw [hlast]
  · intro hnext
    obtain ⟨older, newer, rfl⟩ := List.append_of_mem hr
    rw [h.nextNumber_eq] at hnext
    obtain rfl : newer = [] := List.length_eq_zero_iff.1 (by omega)
    exact List.getLast?_concat

theorem inOrder (h : IsWellFormed entries) : InOrder entries := by
  let le (a b : Revision) : Prop := decide (a.id ≤ b.id) = true
  have htrans : Trans le le le := ⟨id_le_trans _ _ _⟩
  refine List.isChain_iff_pairwise.1 (h.numbered.imp fun a b hab => decide_eq_true ?_)
  rw [Int64.le_iff_toInt_le]
  omega

/-- Reading revisions in order drops the oldest that there is no room for. -/
theorem ofEntries_eq (h : IsWellFormed entries) {capacity : Nat} (hcapacity : 0 < capacity) :
    History.ofEntries entries capacity
      = ⟨entries.drop (entries.length - capacity), capacity⟩ := by
  rw [ofEntries_of_inOrder h.inOrder, Nat.max_eq_left hcapacity]

/-- The last revision has the number after those of the others. -/
theorem id_last (h : IsWellFormed (older ++ [last])) (hne : older ≠ []) :
    last.id.toInt = nextNumber older := by
  obtain rfl | ⟨front, b, rfl⟩ := List.eq_nil_or_concat older
  · exact absurd rfl hne
  rw [List.concat_eq_append] at h ⊢
  rw [nextNumber_concat]
  exact (List.isChain_append.1 h.numbered).2.2 b (by simp) last (by simp)

/-- A revision behind all others: it has the next number, and is not earlier. -/
theorem concat (h : IsWellFormed entries) (htime : ∀ e ∈ entries, now.before e.time = false)
    (hnow : r.time = now) (himpacted : r.impacted ≠ [])
    (hid : entries ≠ [] → r.id.toInt = nextNumber entries) : IsWellFormed (entries ++ [r]) where
  numbered := by
    refine List.isChain_append.2 ⟨h.numbered, List.isChain_singleton r, fun a ha b hb => ?_⟩
    obtain ⟨older, rfl⟩ := List.getLast?_eq_some_iff.1 ha
    rw [List.head?_cons, Option.mem_some_iff] at hb
    subst hb
    rw [hid (by simp), nextNumber_concat]
  timely := by
    refine List.pairwise_append.2 ⟨h.timely, List.pairwise_singleton _ r, fun a ha b hb => ?_⟩
    rw [List.mem_singleton.1 hb, hnow]
    exact htime a ha
  impacting := by
    intro e he
    rcases List.mem_append.1 he with he | he
    · exact h.impacting e he
    · rw [List.mem_singleton.1 he]
      exact himpacted

end IsWellFormed

/-! ### Entering reports -/

theorem upsert_ne_nil {α : Type} (key : α → String) (x : α) (items : List α) :
    upsert key x items ≠ [] :=
  List.ne_nil_of_mem (mem_upsert_self key x items)

theorem foldl_upsert_ne_nil {new old : List ImpactedObject} (h : old ≠ []) :
    new.foldl (fun os o => upsert (·.key) o os) old ≠ [] := by
  induction new generalizing old with
  | nil => exact h
  | cons x new ih => exact ih (upsert_ne_nil _ x old)

namespace History

variable {h : History} {now : Instant}

/-- Whether a report becomes a revision of its own: it acted upon something, and is not merged into
the latest revision. -/
def appends (h : History) (resync : Bool) (r : Report) : Bool :=
  !r.impacted.isEmpty && !(resync && h.latest?.any (·.action = r.action))

/-- How many revisions of their own some reports become, one after the other. -/
def appended (h : History) (now : Instant) (resync : Bool) : List Report → Nat
  | [] => 0
  | r :: reports =>
    (h.appends resync r).toNat + (h.entering now resync r).appended now resync reports

/-- What becomes of a report: nothing, a change of the latest revision, or a revision of its own. -/
theorem entering_appends (h : History) (now : Instant) (resync : Bool) (r : Report) :
    (r.impacted = [] ∧ h.appends resync r = false ∧ h.entering now resync r = h)
    ∨ (∃ older last, h.entries = older ++ [last] ∧ last.action = r.action
        ∧ h.appends resync r = false ∧ h.entering now resync r
          = { h with entries := older ++ [mergeInto last now r.impacted r.excluded] })
    ∨ (r.impacted ≠ [] ∧ h.appends resync r = true
        ∧ h.entering now resync r = h.add now r.action r.impacted r.excluded) := by
  by_cases hnone : r.impacted = []
  · exact .inl ⟨hnone, by simp [appends, hnone], by simp [entering, hnone]⟩
  refine .inr ?_
  by_cases hmerge : resync = true ∧ ∃ last, h.latest? = some last ∧ last.action = r.action
  · obtain ⟨rfl, last, hlast, haction⟩ := hmerge
    obtain ⟨older, hentries⟩ := List.getLast?_eq_some_iff.1 hlast
    refine .inl ⟨older, last, hentries, haction, by simp [appends, hlast, haction], ?_⟩
    simp [entering, hnone, mergeIntoLatest?, hlast, haction, hentries]
  · refine .inr ⟨hnone, ?_⟩
    cases resync with
    | false => simp [appends, entering, hnone]
    | true =>
        cases hlast : h.latest? with
        | none => simp [appends, entering, mergeIntoLatest?, hnone, hlast]
        | some last =>
            have hother : last.action ≠ r.action := fun heq => hmerge ⟨rfl, last, hlast, heq⟩
            simp [appends, entering, mergeIntoLatest?, hnone, hlast, hother]

/-- A history in order at an instant: no revision is later, and there is room for all of them. -/
structure IsOrderly (h : History) (now : Instant) : Prop where
  wellFormed : IsWellFormed h.entries
  notLater : ∀ e ∈ h.entries, now.before e.time = false
  room : 0 < h.capacity
  size_le : h.size ≤ h.capacity

theorem toInt_nextId (hfits : nextNumber h.entries ≤ maxSigned64) :
    h.nextId.toInt = nextNumber h.entries := by
  unfold nextId latest?
  unfold nextNumber at hfits ⊢
  cases hlast : h.entries.getLast? with
  | none => rfl
  | some last =>
      rw [hlast] at hfits
      dsimp only at hfits ⊢
      have hleast := last.id.le_toInt
      have hone : (1 : Int64).toInt = 1 := rfl
      unfold maxSigned64 at hfits
      rw [Int64.toInt_add, hone]
      exact Int.bmod_eq_of_le (by omega) (by omega)

/-- A history drops its oldest revision for a new one when it is full, and else none. -/
theorem entries_add (h : History) (time : Instant) (action : Action)
    (impacted : List ImpactedObject) (excluded : List ExcludedObject) :
    ∃ n, (h.add time action impacted excluded).entries
        = h.entries.drop n ++ [⟨time, h.nextId, action, impacted, excluded⟩]
      ∧ (n = 0 ∨ n = 1 ∧ h.capacity ≤ h.size) := by
  unfold add
  dsimp only
  split
  · rename_i hfull
    exact ⟨1, rfl, .inr ⟨rfl, hfull⟩⟩
  · exact ⟨0, rfl, .inl rfl⟩

/-- A report that is merged into the latest revision. -/
theorem IsOrderly.merge {older : List Revision} {last : Revision} (ho : h.IsOrderly now)
    (hentries : h.entries = older ++ [last]) (impacted : List ImpactedObject)
    (excluded : List ExcludedObject) :
    IsOrderly { h with entries := older ++ [mergeInto last now impacted excluded] } now := by
  obtain ⟨hwell, hlater, hroom, hsize⟩ := ho
  rw [size, hentries] at hsize
  rw [hentries] at hwell hlater
  have holder : ∀ e ∈ older, now.before e.time = false :=
    fun e he => hlater e (List.mem_append_left _ he)
  refine ⟨?_, ?_, hroom, ?_⟩
  · exact (hwell.of_part (List.infix_append' [] older [last])).concat holder rfl
      (foldl_upsert_ne_nil (hwell.impacting last (by simp))) hwell.id_last
  · intro e he
    rcases List.mem_append.1 he with he | he
    · exact holder e he
    · rw [List.mem_singleton.1 he]
      exact Instant.before_self now
  · simpa [size] using hsize

/-- A report that becomes a revision of its own. -/
theorem IsOrderly.add (ho : h.IsOrderly now) (hfits : nextNumber h.entries ≤ maxSigned64)
    (action : Action) {impacted : List ImpactedObject} (himpacted : impacted ≠ [])
    (excluded : List ExcludedObject) :
    (h.add now action impacted excluded).IsOrderly now
      ∧ nextNumber (h.add now action impacted excluded).entries = nextNumber h.entries + 1 := by
  obtain ⟨hwell, hlater, hroom, hsize⟩ := ho
  have hid := toInt_nextId hfits
  have hsize' := size_add_le h now action impacted excluded hroom hsize
  obtain ⟨n, hentries, -⟩ := entries_add h now action impacted excluded
  have hkept := hwell.of_part (List.drop_suffix n _).isInfix
  have hlater' : ∀ e ∈ h.entries.drop n, now.before e.time = false :=
    fun e he => hlater e (List.mem_of_mem_drop he)
  refine ⟨⟨?_, ?_, hroom, hsize'⟩, ?_⟩
  · rw [hentries]
    exact hkept.concat hlater' rfl himpacted fun hne => hid.trans (nextNumber_drop hne).symm
  · intro e he
    rw [hentries] at he
    rcases List.mem_append.1 he with he | he
    · exact hlater' e he
    · rw [List.mem_singleton.1 he]
      exact Instant.before_self now
  · rw [hentries, nextNumber_concat]
    exact congrArg (· + 1) hid

/-- **Entering a report keeps the order**, and gives a number to a revision of its own. -/
theorem IsOrderly.entering (ho : h.IsOrderly now) (resync : Bool) (r : Report)
    (hfits : nextNumber h.entries + (h.appends resync r).toNat ≤ maxSigned64) :
    (h.entering now resync r).IsOrderly now
      ∧ nextNumber (h.entering now resync r).entries
        = nextNumber h.entries + (h.appends resync r).toNat := by
  rcases entering_appends h now resync r with ⟨-, happends, heq⟩
    | ⟨older, last, hentries, -, happends, heq⟩ | ⟨hsome, happends, heq⟩
  · rw [heq, happends]
    exact ⟨ho, (Int.add_zero _).symm⟩
  · rw [heq, happends]
    refine ⟨ho.merge hentries _ _, ?_⟩
    rw [hentries, nextNumber_concat, nextNumber_concat]
    exact (Int.add_zero _).symm
  · rw [happends] at hfits ⊢
    rw [heq]
    exact ho.add (Int.le_trans (Int.le_add_of_nonneg_right (Int.natCast_nonneg _)) hfits) r.action
      hsome _

/-- So does entering several reports. -/
theorem IsOrderly.enteringAll (ho : h.IsOrderly now) (resync : Bool) (reports : List Report)
    (hfits : nextNumber h.entries + h.appended now resync reports ≤ maxSigned64) :
    (h.enteringAll now resync reports).IsOrderly now
      ∧ nextNumber (h.enteringAll now resync reports).entries
        = nextNumber h.entries + h.appended now resync reports := by
  induction reports generalizing h with
  | nil => exact ⟨ho, (Int.add_zero _).symm⟩
  | cons r reports ih =>
      rw [appended, Int.natCast_add, ← Int.add_assoc] at hfits ⊢
      obtain ⟨ho', hnext⟩ := ho.entering resync r (by omega)
      rw [enteringAll_cons, ← hnext]
      exact ih ho' (by rw [hnext]; exact hfits)

end History

/-! ### What survives -/

/-- A revision with some reports merged into it, one after the other. -/
def Revision.merging (r : Revision) (now : Instant) (reports : List Report) : Revision :=
  reports.foldl (fun r report => History.mergeInto r now report.impacted report.excluded) r

theorem Revision.id_merging (r : Revision) (now : Instant) (reports : List Report) :
    (r.merging now reports).id = r.id ∧ (r.merging now reports).action = r.action := by
  unfold merging
  induction reports generalizing r with
  | nil => exact ⟨rfl, rfl⟩
  | cons report reports ih => exact ih (History.mergeInto r now report.impacted report.excluded)

/-- Behind some reports a revision is still there, unchanged; or it was the latest one, and reports
of its action were merged into it. -/
def Survives (before : List Revision) (now : Instant) (reports : List Report)
    (after : List Revision) (r : Revision) : Prop :=
  ∃ merged, (merged ≠ [] → before.getLast? = some r)
    ∧ (∀ report ∈ merged, report ∈ reports ∧ report.action = r.action)
    ∧ r.merging now merged ∈ after

namespace History

variable {h : History} {now : Instant} {e : Revision}

/-- A revision of a history in order is dropped for a new one only when its number is no longer
among the last that there is room for. -/
theorem IsOrderly.mem_add (ho : h.IsOrderly now) (he : e ∈ h.entries) {action : Action}
    {impacted : List ImpactedObject} {excluded : List ExcludedObject}
    (hrecent : nextNumber h.entries + 1 ≤ e.id.toInt + h.capacity) :
    e ∈ (h.add now action impacted excluded).entries := by
  obtain ⟨n, hentries, hn⟩ := entries_add h now action impacted excluded
  rw [hentries]
  refine List.mem_append_left _ ?_
  rcases hn with rfl | ⟨rfl, hfull⟩
  · exact he
  · obtain ⟨older, newer, heq⟩ := List.append_of_mem he
    have hwell := ho.wellFormed
    rw [heq] at hwell
    have hnumber := hwell.nextNumber_eq
    rw [← heq] at hnumber
    rw [size, heq] at hfull
    rw [heq]
    rcases older with - | ⟨first, older⟩
    · rw [List.nil_append, List.length_cons] at hfull
      omega
    · simp

/-- Entering a report leaves what is recent. -/
theorem IsOrderly.entering_survives (ho : h.IsOrderly now) (he : e ∈ h.entries) (resync : Bool)
    (r : Report) (hfits : nextNumber h.entries + (h.appends resync r).toNat ≤ maxSigned64)
    (hrecent : nextNumber (h.entering now resync r).entries ≤ e.id.toInt + h.capacity) :
    Survives h.entries now [r] (h.entering now resync r).entries e := by
  have hnext := (ho.entering resync r hfits).2
  rcases entering_appends h now resync r with ⟨-, happends, heq⟩
    | ⟨older, last, hentries, haction, happends, heq⟩ | ⟨hsome, happends, heq⟩
  · rw [heq]
    exact ⟨[], fun hne => absurd rfl hne, by simp, he⟩
  · rw [heq]
    rw [hentries] at he ⊢
    rcases List.mem_append.1 he with he | he
    · exact ⟨[], fun hne => absurd rfl hne, by simp, List.mem_append_left _ he⟩
    · obtain rfl := List.mem_singleton.1 he
      exact ⟨[r], by simp, by simpa using haction.symm,
        List.mem_append_right _ (List.mem_singleton_self _)⟩
  · rw [hnext, happends] at hrecent
    rw [heq]
    exact ⟨[], fun hne => absurd rfl hne, by simp, ho.mem_add he hrecent⟩

/-- **What is recent survives.**  Entering reports leaves every revision whose number is among the
last that there is room for. -/
theorem IsOrderly.enteringAll_survives (ho : h.IsOrderly now) (he : e ∈ h.entries)
    (resync : Bool) (reports : List Report)
    (hfits : nextNumber h.entries + h.appended now resync reports ≤ maxSigned64)
    (hrecent : nextNumber (h.enteringAll now resync reports).entries
      ≤ e.id.toInt + h.capacity) :
    Survives h.entries now reports (h.enteringAll now resync reports).entries e := by
  induction reports generalizing h e with
  | nil => exact ⟨[], fun hne => absurd rfl hne, by simp, he⟩
  | cons r reports ih =>
      have hall := (ho.enteringAll resync (r :: reports) hfits).2
      rw [appended, Int.natCast_add, ← Int.add_assoc] at hfits hall
      obtain ⟨ho', hnext⟩ := ho.entering resync r (by omega)
      obtain ⟨merged, hlatest, hfrom, he'⟩ :=
        ho.entering_survives he resync r (by omega) (by omega)
      obtain ⟨hid, haction⟩ := e.id_merging now merged
      obtain ⟨merged', hlatest', hfrom', he''⟩ :=
        ih ho' he' (by omega) (by rw [hid, capacity_entering]; exact hrecent)
      refine ⟨merged ++ merged', fun hne => ?_, fun report hreport => ?_, ?_⟩
      · by_cases hnone : merged' = []
        · exact hlatest (by simpa [hnone] using hne)
        · -- No revision got a number of its own, or this one would not be the latest.
          have hlast := (ho'.wellFormed.getLast?_eq_iff he').1 (hlatest' hnone)
          rw [hid] at hlast
          have hbefore := ho.wellFormed.id_lt_nextNumber he
          exact (ho.wellFormed.getLast?_eq_iff he).2 (by omega)
      · rcases List.mem_append.1 hreport with hreport | hreport
        · obtain ⟨hmem, hsame⟩ := hfrom report hreport
          exact ⟨List.mem_cons.2 (.inl (List.mem_singleton.1 hmem)), hsame⟩
        · obtain ⟨hmem, hsame⟩ := hfrom' report hreport
          exact ⟨List.mem_cons_of_mem r hmem, hsame.trans haction⟩
      · have hmerging : e.merging now (merged ++ merged')
            = (e.merging now merged).merging now merged' := List.foldl_append
        rw [hmerging]
        exact he''

end History

/-! ### Reading a history in order -/

namespace IsWellFormed

variable {entries : List Revision} {capacity : Nat} {now : Instant} {e : Revision}

/-- The history that is read from revisions in order is in order, and the same number is next. -/
theorem isOrderly_ofEntries (h : IsWellFormed entries)
    (htime : ∀ e ∈ entries, now.before e.time = false) (hcapacity : 0 < capacity) :
    (History.ofEntries entries capacity).IsOrderly now
      ∧ nextNumber (History.ofEntries entries capacity).entries = nextNumber entries := by
  have hroom := History.ofEntries_capacity_pos entries capacity
  have hsize := History.size_ofEntries_le entries capacity
  rw [h.ofEntries_eq hcapacity] at hroom hsize ⊢
  refine ⟨⟨h.of_part (List.drop_suffix _ _).isInfix,
    fun e he => htime e (List.mem_of_mem_drop he), hroom, hsize⟩, ?_⟩
  cases entries with
  | nil => rw [List.drop_nil]
  | cons first rest =>
      refine nextNumber_drop fun hnil => ?_
      have hall := List.drop_eq_nil_iff.1 hnil
      rw [List.length_cons] at hall
      omega

/-- A recent revision is read. -/
theorem mem_ofEntries (h : IsWellFormed entries) (he : e ∈ entries) (hcapacity : 0 < capacity)
    (hrecent : nextNumber entries ≤ e.id.toInt + capacity) :
    e ∈ (History.ofEntries entries capacity).entries := by
  obtain ⟨older, newer, rfl⟩ := List.append_of_mem he
  rw [h.nextNumber_eq] at hrecent
  rw [h.ofEntries_eq hcapacity]
  dsimp only
  rw [List.drop_append_of_le_length (by simp only [List.length_append, List.length_cons]; omega)]
  exact List.mem_append_right _ List.mem_cons_self

/-- **What is recent survives** reading a history and entering reports into it. -/
theorem survives (h : IsWellFormed entries) (htime : ∀ e ∈ entries, now.before e.time = false)
    (hcapacity : 0 < capacity) (he : e ∈ entries) (resync : Bool) (reports : List Report)
    (hfits : nextNumber entries
      + (History.ofEntries entries capacity).appended now resync reports ≤ maxSigned64)
    (hrecent : nextNumber ((History.ofEntries entries capacity).enteringAll now resync
      reports).entries ≤ e.id.toInt + capacity) :
    Survives entries now reports
      ((History.ofEntries entries capacity).enteringAll now resync reports).entries e := by
  obtain ⟨ho, hnext⟩ := h.isOrderly_ofEntries htime hcapacity
  rw [← hnext] at hfits
  have hall := (ho.enteringAll resync reports hfits).2
  have hread := h.mem_ofEntries he hcapacity (by omega)
  have hbound : (History.ofEntries entries capacity).capacity = capacity := by
    rw [h.ofEntries_eq hcapacity]
  obtain ⟨merged, hlatest, hfrom, hafter⟩ :=
    ho.enteringAll_survives hread resync reports hfits (by rw [hbound]; exact hrecent)
  refine ⟨merged, fun hne => ?_, hfrom, hafter⟩
  rw [h.getLast?_eq_iff he, ← hnext]
  exact (ho.wellFormed.getLast?_eq_iff hread).1 (hlatest hne)

end IsWellFormed

end Slumber
