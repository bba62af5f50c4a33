import Slumber.Proofs.Status.Records

/-!
# What a history retains

Entering a report adds a revision at the end, or changes the last one, and drops the oldest revision
of a full history. So an object that was recorded stays recorded while fewer revisions were added
since than the history holds. And since a revision is only ever changed by a report of its own
action, reports of other actions leave of the revisions that record counts a suffix.

* `History.enteringAll` — several reports, one after the other;
* `History.RecordsWithin` — an object is recorded, not too long ago;
* `recordsWithin_entering`, `History.RecordsWithin.enteringAll` — what is entered, is retained;
* `newestCount?` — the count that all of the recorded revisions give for an object;
* `ofEntries_of_inOrder` — reading revisions that are in order;
* `newestCount?_enteringAll`, `newestCount?_ofEntries` — reports of other actions, and the bound on
  the history, give it no other value.
-/

namespace Slumber

/-- The history with some reports, one after the other. -/
def History.enteringAll (h : History) (now : Instant) (resync : Bool) (reports : List Report) :
    History :=
  reports.foldl (fun h r => h.entering now resync r) h

/-! ### Entering objects by their keys -/

theorem mem_upsert_self {α : Type} (key : α → String) (x : α) (items : List α) :
    x ∈ upsert key x items := by
  induction items with
  | nil => exact List.mem_singleton_self x
  | cons y items ih =>
      unfold upsert
      split
      · exact List.mem_cons_self
      · exact List.mem_cons_of_mem _ ih

theorem mem_upsert_of_ne {α : Type} {key : α → String} {x y : α} {items : List α}
    (h : y ∈ items) (hne : key y ≠ key x) : y ∈ upsert key x items := by
  induction items with
  | nil => cases h
  | cons z items ih =>
      unfold upsert
      split
      · rename_i hz
        rcases List.mem_cons.1 h with rfl | h
        · exact absurd hz hne
        · exact List.mem_cons_of_mem _ h
      · rcases List.mem_cons.1 h with rfl | h
        · exact List.mem_cons_self
        · exact List.mem_cons_of_mem _ (ih h)

/-- Entering objects of other keys keeps an object. -/
theorem mem_foldl_upsert_of_ne {new old : List ImpactedObject} {o : ImpactedObject} (ho : o ∈ old)
    (hne : ∀ x ∈ new, o.key ≠ x.key) :
    o ∈ new.foldl (fun os o => upsert (·.key) o os) old := by
  induction new generalizing old with
  | nil => exact ho
  | cons x new ih =>
      rw [List.foldl_cons]
      exact ih (mem_upsert_of_ne ho (hne x List.mem_cons_self))
        fun y hy => hne y (List.mem_cons_of_mem _ hy)

/-- Objects of distinct keys are all entered. -/
theorem mem_foldl_upsert_of_mem {new : List ImpactedObject} (old : List ImpactedObject)
    {o : ImpactedObject} (ho : o ∈ new) (hnodup : (new.map (·.key)).Nodup) :
    o ∈ new.foldl (fun os o => upsert (·.key) o os) old := by
  induction new generalizing old with
  | nil => cases ho
  | cons x new ih =>
      rw [List.map_cons, List.nodup_cons] at hnodup
      rw [List.foldl_cons]
      rcases List.mem_cons.1 ho with rfl | ho
      · refine mem_foldl_upsert_of_ne (mem_upsert_self _ _ _) fun y hy heq => hnodup.1 ?_
        rw [heq]
        exact List.mem_map_of_mem hy
      · exact ih _ ho hnodup.2

namespace History

variable {h : History} {now : Instant} {resync : Bool} {r : Report} {reports : List Report}
  {action : Action} {o : ImpactedObject} {n : Nat}

/-! ### The cases of entering a report -/

/-- Revisions at the end of a history may be merged with, or followed by, those of a report. -/
theorem entering_cases (h : History) (now : Instant) (resync : Bool) (r : Report) :
    (r.impacted = [] ∧ h.entering now resync r = h)
    ∨ (∃ older last, h.entries = older ++ [last] ∧ last.action = r.action
        ∧ h.entering now resync r
          = { h with entries := older ++ [mergeInto last now r.impacted r.excluded] })
    ∨ (r.impacted ≠ [] ∧ h.entering now resync r = h.add now r.action r.impacted r.excluded) := by
  unfold entering
  split
  · rename_i hempty
    exact .inl ⟨List.isEmpty_iff.1 hempty, rfl⟩
  · rename_i hsome
    have hne : r.impacted ≠ [] := fun hnil => hsome (List.isEmpty_iff.2 hnil)
    refine .inr ?_
    dsimp only
    split
    · unfold mergeIntoLatest?
      split
      · rename_i last hlast
        split
        · rename_i haction
          obtain ⟨older, hentries⟩ := List.getLast?_eq_some_iff.1 hlast
          refine .inl ⟨older, last, hentries, haction, ?_⟩
          rw [hentries, List.dropLast_concat]
          rfl
        · exact .inr ⟨hne, rfl⟩
      · exact .inr ⟨hne, rfl⟩
    · exact .inr ⟨hne, rfl⟩

@[simp] theorem capacity_entering (h : History) (now : Instant) (resync : Bool) (r : Report) :
    (h.entering now resync r).capacity = h.capacity := by
  rcases entering_cases h now resync r with ⟨-, heq⟩ | ⟨_, _, -, -, heq⟩ | ⟨-, heq⟩ <;> rw [heq]
  rfl

@[simp] theorem enteringAll_cons (h : History) (now : Instant) (resync : Bool) (r : Report)
    (reports : List Report) :
    h.enteringAll now resync (r :: reports)
      = (h.entering now resync r).enteringAll now resync reports := rfl

theorem enteringAll_append (h : History) (now : Instant) (resync : Bool)
    (reports reports' : List Report) :
    h.enteringAll now resync (reports ++ reports')
      = (h.enteringAll now resync reports).enteringAll now resync reports' :=
  List.foldl_append

@[simp] theorem capacity_enteringAll (h : History) (now : Instant) (resync : Bool)
    (reports : List Report) : (h.enteringAll now resync reports).capacity = h.capacity := by
  induction reports generalizing h with
  | nil => rfl
  | cons r reports ih => rw [enteringAll_cons, ih, capacity_entering]

/-! ### Recorded objects -/

/-- The object is recorded under the action, in a revision that at most `n` others follow. -/
def RecordsWithin (h : History) (n : Nat) (action : Action) (o : ImpactedObject) : Prop :=
  ∃ older r newer, h.entries = older ++ r :: newer ∧ newer.length ≤ n ∧ r.action = action
    ∧ o ∈ r.impacted

/-- An object of a report that is entered is recorded in the last revision. -/
theorem recordsWithin_entering (h : History) (now : Instant) (resync : Bool) (ho : o ∈ r.impacted)
    (hnodup : (r.impacted.map (·.key)).Nodup) :
    (h.entering now resync r).RecordsWithin 0 r.action o := by
  rcases entering_cases h now resync r with ⟨hnone, -⟩ | ⟨older, last, -, haction, heq⟩ | ⟨-, heq⟩
  · rw [hnone] at ho
    cases ho
  · rw [heq]
    exact ⟨older, _, [], rfl, Nat.le_refl 0, haction,
      mem_foldl_upsert_of_mem last.impacted ho hnodup⟩
  · rw [heq]
    exact ⟨_, _, [], rfl, Nat.le_refl 0, rfl, ho⟩

theorem RecordsWithin.mono {m : Nat} (hh : h.RecordsWithin n action o) (hle : n ≤ m) :
    h.RecordsWithin m action o := by
  obtain ⟨older, e, newer, hentries, hnewer, he⟩ := hh
  exact ⟨older, e, newer, hentries, Nat.le_trans hnewer hle, he⟩

/-- How many revisions some reports add at most. -/
def added (reports : List Report) : Nat :=
  reports.countP fun r => !r.impacted.isEmpty

theorem added_cons (r : Report) (reports : List Report) :
    added (r :: reports) = added reports + added [r] := by
  simp [added, List.countP_cons]

/-- Another revision leaves it recorded, if the history holds one more. -/
theorem RecordsWithin.add (hh : h.RecordsWithin n action o) (hroom : n + 1 < h.capacity)
    (time : Instant) (action' : Action) (impacted : List ImpactedObject)
    (excluded : List ExcludedObject) :
    (h.add time action' impacted excluded).RecordsWithin (n + 1) action o := by
  obtain ⟨older, e, newer, hentries, hnewer, he⟩ := hh
  unfold History.add
  generalize (⟨time, h.nextId, action', impacted, excluded⟩ : Revision) = new
  dsimp only
  split
  · -- A full history has an older revision to drop.
    rename_i hfull
    rcases older with - | ⟨first, older⟩
    · rw [size, hentries, List.nil_append, List.length_cons] at hfull
      omega
    · refine ⟨older, e, newer ++ [new], ?_, ?_, he⟩
      · rw [hentries, List.cons_append, List.drop_one, List.tail_cons, List.append_assoc,
          List.cons_append]
      · rw [List.length_append, List.length_singleton]
        omega
  · refine ⟨older, e, newer ++ [new], ?_, ?_, he⟩
    · rw [hentries, List.append_assoc, List.cons_append]
    · rw [List.length_append, List.length_singleton]
      omega

/-- A report of another action leaves it recorded, if the history holds what the report adds. -/
theorem RecordsWithin.entering (hh : h.RecordsWithin n action o) (hr : r.action ≠ action)
    (hroom : n + added [r] < h.capacity) :
    (h.entering now resync r).RecordsWithin (n + added [r]) action o := by
  rcases entering_cases h now resync r with ⟨-, heq⟩ | ⟨front, last, hlast, haction, heq⟩
    | ⟨hne, heq⟩
  · rw [heq]
    exact hh.mono (Nat.le_add_right _ _)
  · -- The last revision is of the action of the report, and so not the one that records.
    obtain ⟨older, e, newer, hentries, hnewer, he, ho⟩ := hh
    rw [hentries] at hlast
    rcases List.eq_nil_or_concat newer with rfl | ⟨init, last', rfl⟩
    · have hsame := (List.append_inj' hlast rfl).2
      rw [List.cons.injEq] at hsame
      exact absurd (haction.symm.trans (hsame.1 ▸ he)) hr
    · rw [List.concat_eq_append, ← List.cons_append, ← List.append_assoc] at hlast
      obtain ⟨rfl, -⟩ := List.append_inj' hlast rfl
      rw [heq]
      refine ⟨older, e, init ++ [mergeInto last now r.impacted r.excluded], ?_, ?_, he, ho⟩
      · rw [List.append_assoc, List.cons_append]
      · rw [List.length_concat] at hnewer
        rw [List.length_append, List.length_singleton]
        exact Nat.le_add_right_of_le hnewer
  · have hone : added [r] = 1 := by simpa [added] using hne
    rw [hone] at hroom ⊢
    rw [heq]
    exact hh.add hroom _ _ _ _

/-- So do several such reports. -/
theorem RecordsWithin.enteringAll (hh : h.RecordsWithin n action o)
    (now : Instant) (resync : Bool) (hreports : ∀ r ∈ reports, r.action ≠ action)
    (hroom : n + added reports < h.capacity) :
    (h.enteringAll now resync reports).RecordsWithin (n + added reports) action o := by
  induction reports generalizing h n with
  | nil => exact hh
  | cons r reports ih =>
      rw [added_cons, Nat.add_comm (added reports), ← Nat.add_assoc] at hroom ⊢
      rw [enteringAll_cons]
      refine ih (hh.entering (hreports r List.mem_cons_self) (by omega))
        (fun r' hr' => hreports r' (List.mem_cons_of_mem _ hr')) ?_
      rw [capacity_entering]
      exact hroom

end History

/-! ### The newest count -/

/-- The revision records counts, if it was for putting objects to sleep or for scaling them. -/
def Revision.lowers (r : Revision) : Bool :=
  r.action = .hibernate ∨ r.action = .scale

/-- The count that all of some recorded revisions give for an object. -/
def newestCount? (entries : List Revision) (key : String) : Option Int32 :=
  (History.ofEntries entries entries.length).countBefore? key

/-- The revisions that record counts, in order of their numbers. -/
def lowering (entries : List Revision) : List Revision :=
  (entries.mergeSort fun a b => a.id ≤ b.id).filter (·.lowers)

/-- Only revisions that record counts matter for one that is looked up. -/
theorem findSome?_recordedCount? (entries : List Revision) (key : String) :
    entries.reverse.findSome? (History.recordedCount? key)
      = (entries.filter (·.lowers)).reverse.findSome? (History.recordedCount? key) := by
  induction entries with
  | nil => rfl
  | cons r entries ih =>
      rw [List.reverse_cons, List.findSome?_append, ih, List.filter_cons]
      split
      · rw [List.reverse_cons, List.findSome?_append]
      · rename_i hr
        have hnone : History.recordedCount? key r = none := by
          unfold History.recordedCount?
          rw [if_neg (by simpa [Revision.lowers] using hr)]
        rw [List.findSome?_cons, hnone]
        simp

/-- A suffix gives the same count, if any. -/
theorem findSome?_reverse_of_suffix {α β : Type} {f : α → Option β} {xs ys : List α} {b : β}
    (h : xs <:+ ys) (hb : xs.reverse.findSome? f = some b) : ys.reverse.findSome? f = some b := by
  obtain ⟨front, rfl⟩ := h
  rw [List.reverse_append, List.findSome?_append, hb]
  rfl

section

variable {entries : List Revision} {key : String} {n : Int32} {h : History}

theorem History.countBefore?_of_suffix {rs : List Revision}
    (hsuffix : h.entries.filter (·.lowers) <:+ rs) (hn : h.countBefore? key = some n) :
    rs.reverse.findSome? (recordedCount? key) = some n := by
  unfold countBefore? at hn
  rw [findSome?_recordedCount?] at hn
  exact findSome?_reverse_of_suffix hsuffix hn

theorem newestCount?_eq (entries : List Revision) (key : String) :
    newestCount? entries key
      = (lowering entries).reverse.findSome? (History.recordedCount? key) := by
  have hall : (History.ofEntries entries entries.length).entries
      = entries.mergeSort fun a b => a.id ≤ b.id := by
    unfold History.ofEntries
    dsimp only
    rw [List.length_mergeSort, Nat.sub_eq_zero_of_le (Nat.le_max_left _ _), List.drop_zero]
  unfold newestCount? History.countBefore?
  rw [hall, findSome?_recordedCount?]
  rfl

/-- The bound on a history gives an object no other count. -/
theorem newestCount?_ofEntries {capacity : Nat}
    (hn : (History.ofEntries entries capacity).countBefore? key = some n) :
    newestCount? entries key = some n := by
  rw [newestCount?_eq]
  exact History.countBefore?_of_suffix ((List.drop_suffix _ _).filter _) hn

theorem id_le_trans (a b c : Revision) (hab : decide (a.id ≤ b.id) = true)
    (hbc : decide (b.id ≤ c.id) = true) : decide (a.id ≤ c.id) = true :=
  decide_eq_true (Int64.le_trans (of_decide_eq_true hab) (of_decide_eq_true hbc))

theorem id_le_total (a b : Revision) :
    (decide (a.id ≤ b.id) || decide (b.id ≤ a.id)) = true := by
  rw [Bool.or_eq_true, decide_eq_true_eq, decide_eq_true_eq]
  exact Int64.le_total _ _

/-- The revisions are in order of their numbers. -/
def InOrder (entries : List Revision) : Prop :=
  entries.Pairwise fun a b => decide (a.id ≤ b.id) = true

instance (entries : List Revision) : Decidable (InOrder entries) :=
  inferInstanceAs (Decidable (List.Pairwise _ _))

/-- Reading a history in order only drops the oldest revisions. -/
theorem ofEntries_of_inOrder (h : InOrder entries) (capacity : Nat) :
    History.ofEntries entries capacity
      = ⟨entries.drop (entries.length - max capacity 1), max capacity 1⟩ := by
  unfold History.ofEntries
  dsimp only
  rw [List.mergeSort_of_pairwise h]

theorem newestCount?_of_inOrder (h : InOrder entries) (key : String) :
    newestCount? entries key = entries.reverse.findSome? (History.recordedCount? key) := by
  unfold newestCount? History.countBefore?
  rw [ofEntries_of_inOrder h, Nat.sub_eq_zero_of_le (Nat.le_max_left _ _), List.drop_zero]

/-- Revisions that record counts and are in order stay as they are when all are put in order. -/
theorem lowering_of_inOrder (h : InOrder (entries.filter (·.lowers))) :
    lowering entries = entries.filter (·.lowers) := by
  have hsub := List.sublist_mergeSort id_le_trans id_le_total h List.filter_sublist
  have hsub' := hsub.filter (·.lowers)
  simp only [List.filter_filter, Bool.and_self] at hsub'
  refine (hsub'.eq_of_length_le ?_).symm
  exact Nat.le_of_eq ((List.mergeSort_perm entries _).filter _).length_eq

/-- A report of another action leaves a suffix of the revisions that record counts. -/
theorem lowering_entering_suffix {now : Instant} {resync : Bool} {r : Report}
    (hr : r.action ≠ .hibernate ∧ r.action ≠ .scale) :
    (h.entering now resync r).entries.filter (·.lowers) <:+ h.entries.filter (·.lowers) := by
  have hother : ∀ e : Revision, e.action = r.action → e.lowers = false := by
    intro e he
    rw [Revision.lowers, he, decide_eq_false_iff_not]
    exact fun hlowers => hlowers.elim hr.1 hr.2
  rcases History.entering_cases h now resync r with ⟨-, heq⟩ | ⟨older, last, hlast, haction, heq⟩
    | ⟨-, heq⟩
  · exact heq.symm ▸ List.suffix_refl _
  · have hmerged := hother (History.mergeInto last now r.impacted r.excluded) haction
    have hsame : (h.entering now resync r).entries.filter (·.lowers)
        = h.entries.filter (·.lowers) := by
      rw [heq, hlast, List.filter_append, List.filter_append,
        List.filter_cons_of_neg (by simp [hmerged]),
        List.filter_cons_of_neg (by simp [hother last haction])]
    exact hsame ▸ List.suffix_refl _
  · rw [heq]
    unfold History.add
    generalize hnew : (⟨now, h.nextId, r.action, r.impacted, r.excluded⟩ : Revision) = new
    have hfresh : new.lowers = false := hother new (by rw [← hnew])
    dsimp only
    rw [List.filter_append, List.filter_cons_of_neg (by simp [hfresh]), List.filter_nil,
      List.append_nil]
    split
    · exact (List.drop_suffix 1 h.entries).filter _
    · exact List.suffix_refl _

theorem lowering_enteringAll_suffix (now : Instant) (resync : Bool) {reports : List Report}
    (hreports : ∀ r ∈ reports, r.action ≠ .hibernate ∧ r.action ≠ .scale) :
    (h.enteringAll now resync reports).entries.filter (·.lowers)
      <:+ h.entries.filter (·.lowers) := by
  induction reports generalizing h with
  | nil => exact List.suffix_refl _
  | cons r reports ih =>
      rw [History.enteringAll_cons]
      exact (ih fun r' hr' => hreports r' (List.mem_cons_of_mem _ hr')).trans
        (lowering_entering_suffix (hreports r List.mem_cons_self))

/-- **Reports of other actions give an object no other count.** -/
theorem newestCount?_enteringAll {capacity : Nat} {now : Instant} {resync : Bool}
    {reports : List Report} (hreports : ∀ r ∈ reports, r.action ≠ .hibernate ∧ r.action ≠ .scale)
    (hn : newestCount? ((History.ofEntries entries capacity).enteringAll now resync
      reports).entries key = some n) : newestCount? entries key = some n := by
  have hread : (History.ofEntries entries capacity).entries.filter (·.lowers)
      <:+ lowering entries := (List.drop_suffix _ _).filter _
  have hsuffix := (lowering_enteringAll_suffix now resync hreports).trans hread
  -- A suffix of revisions in order is in order.
  have hsorted : InOrder (lowering entries) :=
    (List.pairwise_mergeSort id_le_trans id_le_total entries).filter _
  have hkept := lowering_of_inOrder (hsorted.sublist hsuffix.sublist)
  rw [newestCount?_eq, hkept] at hn
  rw [newestCount?_eq]
  exact findSome?_reverse_of_suffix hsuffix hn

end

end Slumber
