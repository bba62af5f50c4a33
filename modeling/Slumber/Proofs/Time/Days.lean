import Slumber.Time.Instant

/-!
# Days in use

The days in use reach far beyond the years of four digits: an instant is in range when its second
lies between two fixed bounds, and the dates of those years stay well within them.

* `Instant.inRange_iff` — the bounds;
* `dayNumber_bounds` — where the dates of years of four digits lie.
-/

namespace Slumber

open Time

theorem Instant.inRange_iff {t : Instant} :
    t.inRange = true ↔ -96465292 * 86400 ≤ t.seconds ∧ t.seconds < 95026237 * 86400 := by
  have hfirst : firstDay = -96465292 := by decide
  have hlast : lastDay = 95026236 := by decide
  simp only [inRange, isDay, day, hfirst, hlast, Bool.and_eq_true, decide_eq_true_eq]
  omega

namespace Time

theorem daysInMonth_le (y : Int) (m : Nat) : daysInMonth y m ≤ 31 := by
  unfold daysInMonth
  split
  · split <;> decide
  · split <;> decide

theorem daysBeforeMonth_le (y : Int) (m : Nat) : daysBeforeMonth y m ≤ 31 * (m - 1) := by
  have hsum : ∀ (months : List Nat) (days : Nat),
      months.foldl (fun days i => days + daysInMonth y (i + 1)) days
        ≤ days + 31 * months.length := by
    intro months
    induction months with
    | nil => exact fun days => Nat.le_refl days
    | cons i months ih =>
        intro days
        have hmonth := daysInMonth_le y (i + 1)
        have hrest := ih (days + daysInMonth y (i + 1))
        rw [List.foldl_cons, List.length_cons]
        omega
  have hyear := hsum (List.range (m - 1)) 0
  rw [List.length_range, Nat.zero_add] at hyear
  exact hyear

/-- What a date needs of its month and day. -/
theorem Date.bounds_of_isValid {d : Date} (h : d.isValid = true) :
    (1 ≤ d.month ∧ d.month ≤ 12) ∧ (1 ≤ d.day ∧ d.day ≤ 31) := by
  have hdays := daysInMonth_le d.year d.month
  simp only [isValid, Bool.and_eq_true, decide_eq_true_eq] at h
  omega

/-- The dates of years of four digits are days from the year 0 to the year 9999. -/
theorem dayNumber_bounds {d : Date} (hvalid : d.isValid = true) (hlow : 0 ≤ d.year)
    (hhigh : d.year ≤ 9999) : -1000000 ≤ dayNumber d ∧ dayNumber d ≤ 3000000 := by
  obtain ⟨hmonth, hday⟩ := Date.bounds_of_isValid hvalid
  have hbefore := daysBeforeMonth_le d.year d.month
  simp only [dayNumber, daysBeforeYear]
  omega

end Time

end Slumber
