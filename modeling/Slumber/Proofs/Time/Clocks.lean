import Mathlib.Tactic.ByContra
import Slumber.Schedule.Clock
import Slumber.Time.ClockHistory

/-!
# When a clock shows a time

A clock shows a time at no instant, at one or at several. What a database of zones says of its
clocks is put down as `Zone.IsLawful`: a clock is never a whole day ahead or behind, and to a local
time it answers with the instants that show it, the earlier one first. Such a clock passes over a
time only when it is put forward.

* `Zone.IsLawful`, `ZoneDatabase.IsLawful` — what zones promise;
* `Zone.IsLawful.earliest?_eq_some_iff` — the instant that comes first in an answer;
* `Zone.IsLawful.isPutForwardOver` — why no instant shows a time;
* `readZone_isLawful` — the clocks that names resolve to;
* `ClockHistory.isLawful_of_two_offsets` — a clock with a history that keeps the promises.
-/

namespace Slumber

open Time Text

namespace Time

/-! ### The time that a clock shows -/

/-- A local time as a count of seconds. -/
def LocalTime.count (t : LocalTime) : Int :=
  t.day * 86400 + t.second

/-- The instants of an answer. -/
def LocalResult.instants : LocalResult → List Instant
  | .none => []
  | .single i => [i]
  | .ambiguous i j => [i, j]

namespace Zone

/-- The count of seconds that a clock shows at a second of Universal Time. -/
def shownAt (z : Zone) (n : Int) : Int :=
  n + z.offsetAt n

/-- An instant shows a local time when the counts and the fractions agree. -/
theorem localTime_eq_iff {z : Zone} {i : Instant} {t : LocalTime} (ht : t.second < 86400) :
    z.localTime i = t ↔ z.shownAt i.seconds = t.count ∧ i.nanos = t.nanos := by
  obtain ⟨day, second, nanos⟩ := t
  simp only [localTime, shownAt, LocalTime.count, LocalTime.mk.injEq]
  dsimp only at ht
  generalize i.seconds + z.offsetAt i.seconds = n
  constructor
  · intro h
    obtain ⟨hday, hsecond, hnanos⟩ := h
    exact ⟨by omega, hnanos⟩
  · intro h
    obtain ⟨hcount, hnanos⟩ := h
    exact ⟨by omega, by omega, hnanos⟩

/-- An instant that shows a time with no earlier one doing so. -/
def IsEarliest (z : Zone) (t : LocalTime) (i : Instant) : Prop :=
  z.localTime i = t ∧ ∀ j, z.localTime j = t → i.seconds ≤ j.seconds

/-! ### What clocks promise -/

/-- What a database says of a clock. -/
structure IsLawful (z : Zone) : Prop where
  /-- The clock is always less than a day ahead of Universal Time or behind it. -/
  within_day : ∀ n, -86400 < z.offsetAt n ∧ z.offsetAt n < 86400
  /-- It answers with the instants in range that show the time. -/
  mem_instants_iff : ∀ {t i}, t.second < 86400 →
    (i ∈ (z.fromLocal t).instants ↔ i.inRange = true ∧ z.localTime i = t)
  /-- Of two instants, it names the earlier one first. -/
  ordered : ∀ {t i j}, z.fromLocal t = .ambiguous i j → i.seconds < j.seconds

namespace IsLawful

variable {z : Zone} {t : LocalTime} {i : Instant}

/-- The first instant of an answer is the earliest one in range that shows the time. -/
theorem earliest?_eq_some_iff (hz : z.IsLawful) (ht : t.second < 86400) :
    (z.fromLocal t).earliest? = some i ↔ (i.inRange = true ∧ z.localTime i = t)
      ∧ ∀ j, j.inRange = true ∧ z.localTime j = t → i.seconds ≤ j.seconds := by
  simp only [← hz.mem_instants_iff ht]
  cases hanswer : z.fromLocal t with
  | none => simp [LocalResult.earliest?, LocalResult.instants]
  | single first =>
      simp only [LocalResult.earliest?, LocalResult.instants, Option.some.injEq, List.mem_singleton,
        forall_eq]
      constructor
      · rintro rfl
        exact ⟨rfl, Int.le_refl _⟩
      · exact fun h => h.1.symm
  | ambiguous first last =>
      have hordered := hz.ordered hanswer
      simp only [LocalResult.earliest?, LocalResult.instants, Option.some.injEq, List.mem_cons,
        List.not_mem_nil, or_false, forall_eq_or_imp, forall_eq]
      constructor
      · rintro rfl
        exact ⟨.inl rfl, Int.le_refl _, Int.le_of_lt hordered⟩
      · rintro ⟨rfl | rfl, hfirst, -⟩
        · rfl
        · omega

/-- Where an answer has no instant, no instant in range shows the time. -/
theorem earliest?_eq_none_iff (hz : z.IsLawful) (ht : t.second < 86400) :
    (z.fromLocal t).earliest? = none ↔ ∀ j : Instant, j.inRange = true → z.localTime j ≠ t := by
  have hnone : (z.fromLocal t).earliest? = none ↔ ∀ j, j ∉ (z.fromLocal t).instants := by
    rw [← List.eq_nil_iff_forall_not_mem]
    cases z.fromLocal t <;> simp [LocalResult.earliest?, LocalResult.instants]
  rw [hnone]
  simp only [hz.mem_instants_iff ht, not_and, ne_eq]

end IsLawful

/-- The clock of Universal Time keeps what is promised. -/
theorem utc_isLawful : utc.IsLawful where
  within_day _ := show (-86400 : Int) < 0 ∧ (0 : Int) < 86400 by decide
  mem_instants_iff {t i} ht := by
    have hshown : utc.localTime i = t ↔ i = ⟨t.day * 86400 + t.second, t.nanos⟩ := by
      obtain ⟨seconds, nanos⟩ := i
      rw [localTime_eq_iff ht]
      simp [shownAt, utc, LocalTime.count]
    rw [hshown]
    simp only [utc]
    split
    · rename_i hin
      rw [LocalResult.instants, List.mem_singleton]
      exact ⟨fun h => ⟨h ▸ hin, h⟩, fun h => h.2⟩
    · rename_i hout
      rw [LocalResult.instants]
      exact ⟨fun h => (nomatch h), fun h => absurd (h.2 ▸ h.1) hout⟩
  ordered {t i j} h := by
    simp only [utc] at h
    split at h <;> cases h

/-- No time is shown more than twice. -/
def ShowsTwiceAtMost (z : Zone) : Prop :=
  ∀ a b c, a < b → b < c → z.shownAt a = z.shownAt b → z.shownAt b ≠ z.shownAt c

/-! ### Times that are passed over -/

/-- At some second the clock, which was about to show a count or one before it, is put forward to
one behind it. -/
def IsPutForwardOver (z : Zone) (count : Int) : Prop :=
  ∃ n, n + z.offsetAt (n - 1) ≤ count ∧ count < n + z.offsetAt n

/-- What goes from below a number to above it without meeting it steps over it somewhere. -/
theorem exists_step_over {f : Int → Int} {a count : Int} {k : Nat} (hlow : f a < count)
    (hhigh : count < f (a + k)) (hne : ∀ n, f n ≠ count) :
    ∃ n, f (n - 1) < count ∧ count < f n := by
  induction k with
  | zero =>
      rw [Int.natCast_zero, Int.add_zero] at hhigh
      omega
  | succ k ih =>
      have hpred : a + (k + 1 : Nat) - 1 = a + k := by omega
      rcases Int.lt_or_gt_of_ne (hne (a + k)) with hbelow | habove
      · exact ⟨a + (k + 1 : Nat), by rw [hpred]; exact hbelow, hhigh⟩
      · exact ih habove

/-- A time that is never shown is passed over. -/
theorem IsLawful.isPutForwardOver {z : Zone} {count : Int} (hz : z.IsLawful)
    (hne : ∀ n, z.shownAt n ≠ count) : z.IsPutForwardOver count := by
  have hlow : z.shownAt (count - 86400) < count := by
    have hoffset := hz.within_day (count - 86400)
    unfold shownAt
    omega
  have hhigh : count < z.shownAt (count - 86400 + (172800 : Nat)) := by
    have hoffset := hz.within_day (count - 86400 + (172800 : Nat))
    unfold shownAt
    omega
  obtain ⟨n, hbefore, hafter⟩ := exists_step_over hlow hhigh hne
  unfold shownAt at hbefore hafter
  exact ⟨n, by omega, hafter⟩

end Zone

/-! ### Clocks with a history -/

namespace ClockHistory

variable {h : ClockHistory} {t : LocalTime} {n : Int}

theorem offsetAt_mem_offsets (h : ClockHistory) (n : Int) : h.offsetAt n ∈ h.offsets := by
  unfold offsetAt offsets
  split
  · rename_i c hc
    have hmem : c ∈ h.changes := List.mem_reverse.1 (List.mem_of_find?_eq_some hc)
    exact List.mem_cons_of_mem _ (List.mem_map_of_mem hmem)
  · exact List.mem_cons_self ..

/-- No second that shows the time is missed, since the clock has one of its offsets then. -/
theorem mem_candidates : n ∈ h.candidates t
    ↔ (⟨n, t.nanos⟩ : Instant).inRange = true ∧ h.zone.shownAt n = t.count := by
  unfold candidates Zone.shownAt LocalTime.count
  rw [List.mem_filterMap]
  constructor
  · rintro ⟨offset, -, hn⟩
    dsimp only at hn
    split at hn
    · rename_i hoffset
      obtain rfl := Option.some.inj hn
      refine ⟨hoffset.2, ?_⟩
      show _ + h.offsetAt _ = _
      rw [hoffset.1]
      exact Int.sub_add_cancel ..
    · cases hn
  · rintro ⟨hin, hn⟩
    have hback : t.day * 86400 + t.second - h.offsetAt n = n := by
      rw [← hn]
      exact Int.add_sub_cancel ..
    refine ⟨h.offsetAt n, h.offsetAt_mem_offsets n, ?_⟩
    dsimp only
    rw [hback, if_pos ⟨rfl, hin⟩]

/-- A second that shows the time is the first or the last one of those that do, if no time is shown
more than twice. -/
theorem eq_first_or_last (htwice : h.zone.ShowsTwiceAtMost) {first last : Int}
    (hfirst : first ∈ h.candidates t) (hlast : last ∈ h.candidates t) (hn : n ∈ h.candidates t)
    (hlow : first ≤ n) (hhigh : n ≤ last) : n = first ∨ n = last := by
  have hshown : ∀ m ∈ h.candidates t, h.zone.shownAt m = t.count :=
    fun m hm => (mem_candidates.1 hm).2
  by_contra hne
  rw [not_or] at hne
  refine htwice first n last (by omega) (by omega) ?_ ?_
  · rw [hshown first hfirst, hshown n hn]
  · rw [hshown n hn, hshown last hlast]

/-- The seconds that show the time have a first and a last one, or there are none. -/
theorem candidates_cases (h : ClockHistory) (t : LocalTime) :
    h.candidates t = []
    ∨ ∃ first last, (h.candidates t).min? = some first ∧ (h.candidates t).max? = some last := by
  cases hcandidates : h.candidates t with
  | nil => exact .inl rfl
  | cons n ns =>
      obtain ⟨first, hfirst⟩ := Option.ne_none_iff_exists'.1
        (mt List.min?_eq_none_iff.1 (List.cons_ne_nil n ns))
      obtain ⟨last, hlast⟩ := Option.ne_none_iff_exists'.1
        (mt List.max?_eq_none_iff.1 (List.cons_ne_nil n ns))
      exact .inr ⟨first, last, hfirst, hlast⟩

/-- A clock that shows no time more than twice answers with all the seconds at which it does. -/
theorem mem_instants_iff {i : Instant} (htwice : h.zone.ShowsTwiceAtMost) :
    i ∈ (h.fromLocal t).instants ↔ i.seconds ∈ h.candidates t ∧ i.nanos = t.nanos := by
  obtain ⟨n, nanos⟩ := i
  unfold fromLocal
  rcases h.candidates_cases t with hnone | ⟨first, last, hfirst, hlast⟩
  · rw [hnone]
    simp [LocalResult.instants]
  · rw [hfirst, hlast]
    have hleast := List.min?_eq_some_iff.1 hfirst
    have hgreatest := List.max?_eq_some_iff.1 hlast
    by_cases heq : first = last
    · subst heq
      simp only [if_true, LocalResult.instants, List.mem_singleton, Instant.mk.injEq]
      refine and_congr_left fun _ => ⟨fun hn => hn ▸ hleast.1, fun hn => ?_⟩
      exact Int.le_antisymm (hgreatest.2 n hn) (hleast.2 n hn)
    · simp only [if_neg heq, LocalResult.instants, List.mem_cons, List.not_mem_nil, or_false,
        Instant.mk.injEq, ← or_and_right]
      refine and_congr_left fun _ => ⟨?_, fun hn => ?_⟩
      · rintro (rfl | rfl)
        · exact hleast.1
        · exact hgreatest.1
      · exact eq_first_or_last htwice hleast.1 hgreatest.1 hn (hleast.2 n hn) (hgreatest.2 n hn)

/-- Of two instants in an answer the earlier one comes first. -/
theorem lt_of_ambiguous {i j : Instant} (hanswer : h.fromLocal t = .ambiguous i j) :
    i.seconds < j.seconds := by
  unfold fromLocal at hanswer
  rcases h.candidates_cases t with hnone | ⟨first, last, hfirst, hlast⟩
  · rw [hnone] at hanswer
    cases hanswer
  · rw [hfirst, hlast] at hanswer
    dsimp only at hanswer
    split at hanswer
    · cases hanswer
    · rename_i hne
      cases hanswer
      have hle := (List.min?_eq_some_iff.1 hfirst).2 last (List.max?_eq_some_iff.1 hlast).1
      exact Int.lt_iff_le_and_ne.2 ⟨hle, hne⟩

/-- A clock with a history keeps what is promised, if it is never a day ahead or behind and shows no
time more than twice. -/
theorem isLawful (hday : ∀ n, -86400 < h.offsetAt n ∧ h.offsetAt n < 86400)
    (htwice : h.zone.ShowsTwiceAtMost) : h.zone.IsLawful where
  within_day := hday
  mem_instants_iff {t i} ht := by
    rw [Zone.localTime_eq_iff ht, ← and_assoc]
    refine (mem_instants_iff htwice).trans (and_congr_left fun hnanos => ?_)
    rw [mem_candidates, ← hnanos]
  ordered hanswer := lt_of_ambiguous hanswer

/-- A clock that has one of two offsets at every second keeps what is promised. -/
theorem isLawful_of_two_offsets {low high : Int} (hlow : -86400 < low) (hhigh : high < 86400)
    (hle : low ≤ high) (hoffset : ∀ n, h.offsetAt n = low ∨ h.offsetAt n = high) :
    h.zone.IsLawful := by
  refine isLawful (fun n => ?_) fun a b c hab hbc hfirst hlast => ?_
  · rcases hoffset n with hn | hn <;> omega
  · change a + h.offsetAt a = b + h.offsetAt b at hfirst
    change b + h.offsetAt b = c + h.offsetAt c at hlast
    -- Each time the clock is put back its offset gets less, so that it would have three of them.
    rcases hoffset a with ha | ha <;> rcases hoffset b with hb | hb <;>
      rcases hoffset c with hc | hc <;> omega

end ClockHistory

end Time

/-! ### Clocks under their names -/

/-- The clocks of the database keep what is promised. -/
def ZoneDatabase.IsLawful [ZoneDatabase] : Prop :=
  ∀ name zone, ZoneDatabase.find? name = some zone → zone.IsLawful

/-- So do all the clocks that names resolve to. -/
theorem readZone_isLawful [ZoneDatabase] (hlawful : ZoneDatabase.IsLawful) {name : String}
    {zone : Zone} (h : readZone name = .ok zone) : zone.IsLawful := by
  unfold readZone at h
  dsimp only at h
  split at h
  · cases h
    exact Zone.utc_isLawful
  · split at h
    · rename_i z hz
      cases h
      exact hlawful _ _ hz
    · cases h

end Slumber
