import Mathlib.Data.List.Sort
import Slumber.Time.ClockHistory

/-!
# Laying out the changes of a clock

The changes of a clock that follows yearly rules are sorted by their days within each year.
Whichever way of sorting is used, the changes are the same; by insertion they can be computed.

* `mergeSort_eq_insertionSort` — two ways of sorting;
* `ClockRule.changes_eq` — the changes, laid out by insertion;
* `ClockRule.forall_changes` — what holds under each rule holds after each change.
-/

namespace Slumber.Time

/-- Merging and inserting sort alike, also where several things rank the same. -/
theorem mergeSort_eq_insertionSort {α : Type} {r : α → α → Prop} [DecidableRel r]
    (htrans : ∀ a b c, r a b → r b c → r a c) (htotal : ∀ a b, r a b ∨ r b a) (xs : List α) :
    (xs.mergeSort fun a b => r a b) = xs.insertionSort r := by
  have htrans' : ∀ a b c, decide (r a b) = true → decide (r b c) = true →
      decide (r a c) = true := by
    simpa using htrans
  have htotal' : ∀ a b, (decide (r a b) || decide (r b a)) = true := by
    simpa using htotal
  induction xs with
  | nil => simp
  | cons a xs ih =>
      obtain ⟨front, back, hsorted, hrest, hfront⟩ := List.mergeSort_cons htrans' htotal' a xs
      have hordered := List.pairwise_mergeSort htrans' htotal' (a :: xs)
      rw [hsorted, List.pairwise_append] at hordered
      have hback := (List.pairwise_cons.1 hordered.2.1).1
      have hbefore : ∀ b ∈ front, decide (¬ r a b) = true := by
        simpa using hfront
      rw [List.insertionSort_cons, ← ih, hrest, hsorted, List.orderedInsert_eq_take_drop,
        List.takeWhile_append_of_pos hbefore, List.dropWhile_append_of_pos hbefore]
      cases back with
      | nil => simp
      | cons b back =>
          have hb : r a b := of_decide_eq_true (hback b List.mem_cons_self)
          rw [List.takeWhile_cons_of_neg (by simpa using hb),
            List.dropWhile_cons_of_neg (by simpa using hb), List.append_nil]

/-- The changes of a clock with yearly rules, laid out by insertion. -/
theorem ClockRule.changes_eq (rules : List ClockRule) (standard : Int) :
    changes rules standard = changesFrom standard 0 (years.flatMap fun year =>
      ((rules.filter fun r => r.firstYear ≤ year ∧ year ≤ r.lastYear).insertionSort
        fun a b => a.dayIn year ≤ b.dayIn year).map fun r => (r, year)) := by
  unfold changes layOut
  congr 2
  funext year
  dsimp only
  rw [mergeSort_eq_insertionSort]
  · exact fun _ _ _ => Int.le_trans
  · exact fun _ _ => Int.le_total _ _

/-- A clock that follows rules is ahead of standard time by the saving of one of them. -/
theorem ClockRule.exists_saving_of_mem_changesFrom {standard saving : Int}
    {laid : List (ClockRule × Int)} {c : Int × Int} (h : c ∈ changesFrom standard saving laid) :
    ∃ p ∈ laid, c.2 = standard + p.1.saving := by
  induction laid generalizing saving with
  | nil => cases h
  | cons p laid ih =>
      rcases List.mem_cons.1 h with rfl | h
      · exact ⟨p, List.mem_cons_self .., rfl⟩
      · obtain ⟨q, hq, hc⟩ := ih h
        exact ⟨q, List.mem_cons_of_mem _ hq, hc⟩

theorem ClockRule.mem_of_mem_layOut {rules : List ClockRule} {p : ClockRule × Int}
    (h : p ∈ layOut rules) : p.1 ∈ rules := by
  obtain ⟨year, -, h⟩ := List.mem_flatMap.1 h
  obtain ⟨r, hr, rfl⟩ := List.mem_map.1 h
  exact (List.mem_filter.1 (List.mem_mergeSort.1 hr)).1

/-- What holds of the clock under each rule holds of it after each change, whatever the days on
which it is changed. -/
theorem ClockRule.forall_changes {rules : List ClockRule} {standard : Int} {p : Int → Prop}
    (h : ∀ r ∈ rules, p (standard + r.saving)) : ∀ c ∈ changes rules standard, p c.2 := by
  intro c hc
  obtain ⟨q, hq, hc⟩ := exists_saving_of_mem_changesFrom hc
  rw [hc]
  exact h q.1 (mem_of_mem_layOut hq)

end Slumber.Time
