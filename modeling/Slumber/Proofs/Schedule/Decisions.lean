import Slumber.Proofs.Schedule.Exactness
import Slumber.Time.ClockHistory

/-!
# How long a decision lasts

In the gap after an instant it does not change whether the schedule is active. Which of its ranges
decides may change, though: the gap looks only at the end of the range that decides, and inside it
another range may open that closes sooner. The range that decides changes just when that happens.
All this needs a clock with a constant offset, and it counts whole seconds.

* `WeekPoint.after_of_lt` — points of one day;
* `WeeklySchedule.IsOvertaken` — ranges that have opened since and close sooner;
* `Gap.IsExact.inside_kept` — the decision at a later point of the week;
* `decision_kept` — the main theorem;
* `decision_lost` — a range that opens in the gap, and a window that opens in its last fraction.
-/

namespace Slumber

open Time WeeklySchedule

/-! ### Points of the week -/

namespace WeekPoint

variable {p : WeekPoint} {k : Nat}

/-- Until the day is over, going on in the week is counting on. -/
theorem IsValid.after_of_lt (hp : p.IsValid) (hk : p.second + k < 86400) :
    p.after k = ⟨p.day, p.second + k⟩ := by
  have hday := hp.day
  have hvalid : IsValid ⟨p.day, p.second + k⟩ := ⟨hday, hk⟩
  refine (hvalid.eq_after ?_).symm
  rw [position, position, secondsPerDay]
  dsimp only
  omega

/-- Going on in time is going on in the week. -/
theorem at_eq_after {z : Zone} {offset : Int} (hz : ∀ n, z.offsetAt n = offset) {t u : Instant}
    (hu : u.seconds = t.seconds + k) : WeekPoint.at z u = (WeekPoint.at z t).after k :=
  (at_isValid z u).eq_after (position_at_add hz hu)

end WeekPoint

/-! ### Open ranges -/

namespace WeeklySchedule

variable {ranges : List WeeklyRange} {p q : WeekPoint} {n k : Nat} {span : WeeklySpan}

/-- Ranges close on the day on which they have opened. -/
theorem IsOpen.closes_lt (hp : p.IsValid) (h : IsOpen ranges p n span) : span.closes < 86400 := by
  obtain ⟨r, -, hspan⟩ := Option.bind_eq_some_iff.1 h.read
  have hwindows := (WeeklyRange.windows_eq_ok_iff (n := n)).2 ⟨span, hspan, rfl⟩
  obtain ⟨w, hw, -⟩ := (WeeklySpan.exists_window_day_iff (n := n) hp.day).2 h.contains.1
  have hcloses := (r.windows_isWithinWeek hwindows w hw).closes
  rwa [(WeeklySpan.of_mem_windows hw).2.2.1] at hcloses

/-- An open range stays open until it closes. -/
theorem IsOpen.later (hp : p.IsValid) (h : IsOpen ranges p n span)
    (hk : p.second + k ≤ span.closes) : IsOpen ranges (p.after k) n span := by
  refine ⟨h.read, h.live, ?_⟩
  rw [hp.after_of_lt (Nat.lt_of_le_of_lt hk (h.closes_lt hp))]
  exact ⟨h.contains.1, Nat.le_trans h.contains.2.1 (Nat.le_add_right _ _), hk⟩

/-- The range with number `n`, open at `p`, is overtaken until `q`: a range that is open at `q` and
was not at `p` closes before it, or closes when it does and stands before it in the list. -/
def IsOvertaken (ranges : List WeeklyRange) (p q : WeekPoint) (n : Nat) : Prop :=
  ∃ span m other, IsOpen ranges p n span ∧ IsOpen ranges q m other ∧ ¬ IsOpen ranges p m other
    ∧ (other.closes < span.closes ∨ other.closes = span.closes ∧ m < n)

end WeeklySchedule

/-! ### Decisions at two points of the week -/

namespace Gap.IsExact

variable {ranges : List WeeklyRange} {p : WeekPoint} {gap gap' : Gap} {k n : Nat}

/-- Until the gap is over some range is open, and it is the same one that decides unless that is
overtaken. -/
theorem inside_kept (hp : p.IsValid) (h : gap.IsExact ranges p)
    (h' : gap'.IsExact ranges (p.after k)) (hn : gap.range = some n) (hk : k ≤ gap.seconds) :
    gap'.isInside = true
      ∧ (gap'.range = some n ↔ ¬ IsOvertaken ranges p (p.after k) n) := by
  obtain ⟨span, hopen, hcloses, hfirst⟩ := h.decides hn
  have hlater := hopen.later hp (k := k) (by omega)
  have hin := h'.isInside_iff.2 ⟨n, span, hlater⟩
  refine ⟨hin, ?_⟩
  obtain ⟨n', hn'⟩ := Option.isSome_iff_exists.1 hin
  obtain ⟨span', hopen', -, hfirst'⟩ := h'.decides hn'
  -- The range that decides now closes no later than the one that decided.
  have hsooner := hfirst' n span hlater
  rw [hn', Option.some.injEq]
  constructor
  · rintro rfl ⟨span₁, m, other, hopen₁, hother, -, hbefore⟩
    have hspan : span' = span := Option.some.inj (hopen'.read.symm.trans hopen.read)
    have hspan₁ : span₁ = span := Option.some.inj (hopen₁.read.symm.trans hopen.read)
    have hother' := hfirst' m other hother
    rw [hspan] at hother'
    rw [hspan₁] at hbefore
    omega
  · intro hnot
    by_cases hbefore : IsOpen ranges p n' span'
    · have hfirst := hfirst n' span' hbefore
      omega
    · by_contra hne
      exact hnot ⟨span, n', span', hopen, hopen', hbefore, by omega⟩

end Gap.IsExact

/-! ### The main theorem -/

/-- **How long a decision lasts.**  Let the clock of a schedule have a constant offset. From an
instant on, in all the whole seconds before the gap is over and, if the schedule is active, also in
the one in which it is over, the schedule is active if and only if it was. And the same range
decides if and only if the one that decided has not been overtaken. -/
theorem decision_kept [ZoneDatabase] {s : WeeklySchedule} {t u : Instant} {gap : Gap}
    (hs : s.HasConstantOffset) (hgap : s.gapAt t = .ok gap) (hfrom : t.seconds ≤ u.seconds)
    (huntil : u.seconds < t.seconds + gap.seconds
      ∨ gap.isInside = true ∧ u.seconds = t.seconds + gap.seconds) :
    ∃ zone gap', readZone s.zone = .ok zone ∧ s.gapAt u = .ok gap'
      ∧ gap'.isInside = gap.isInside
      ∧ (gap'.range = gap.range ↔ ¬ ∃ n, gap.range = some n
          ∧ IsOvertaken s.ranges (WeekPoint.at zone t) (WeekPoint.at zone u) n) := by
  obtain ⟨zone, windows, hzone, hwindows, rfl⟩ := gapAt_eq_ok_iff.1 hgap
  obtain ⟨zone', offset, hzone', hoffset⟩ := hs
  rw [hzone, Except.ok.injEq] at hzone'
  subst hzone'
  obtain ⟨k, hk⟩ := Int.eq_ofNat_of_zero_le (Int.sub_nonneg_of_le hfrom)
  have hlater := WeekPoint.at_eq_after hoffset (t := t) (u := u) (k := k) (by omega)
  have hp := WeekPoint.at_isValid zone t
  have hexact := gapAtPoint_isExact hwindows hp
  have hexact' := gapAtPoint_isExact hwindows (WeekPoint.at_isValid zone u)
  refine ⟨zone, _, hzone, gapAt_eq_ok_iff.2 ⟨zone, windows, hzone, hwindows, rfl⟩, ?_⟩
  rw [hlater] at hexact' ⊢
  generalize gapAtPoint windows (WeekPoint.at zone t) = gap at hexact huntil ⊢
  generalize gapAtPoint windows ((WeekPoint.at zone t).after k) = gap' at hexact' ⊢
  cases hrange : gap.range with
  | none =>
      have hout := Gap.isInside_eq_false_iff.2 hrange
      have hbefore : k < gap.seconds := by
        rw [hout] at huntil
        rcases huntil with hbefore | ⟨hin, -⟩
        · omega
        · cases hin
      have hout' := hexact.outside_kept hp hexact' hout hbefore
      refine ⟨hout'.trans hout.symm, fun _ => ?_, fun _ => Gap.isInside_eq_false_iff.1 hout'⟩
      · rintro ⟨n, hn, -⟩
        cases hn
  | some n =>
      obtain ⟨hin, hsame⟩ := hexact.inside_kept hp hexact' hrange (k := k) (by omega)
      refine ⟨?_, hsame.trans (not_congr ?_)⟩
      · rw [hin, Gap.isInside, hrange]
        rfl
      · refine ⟨fun h => ⟨n, rfl, h⟩, ?_⟩
        rintro ⟨m, hm, h⟩
        rwa [Option.some.inj hm]

/-! ### A range in a range -/

open scoped Time.ClockHistory

/-- Working days but for an hour, and in them Monday morning. -/
def nestedHours : WeeklySchedule where
  ranges := [⟨"00:00", "23:00", "mon", "fri"⟩, ⟨"09:00", "12:00", "mon", "mon"⟩]

/-- Monday at eight, when only the longer range is open. -/
def mondayAtEight : Instant := ⟨1704096000, 0⟩

/-- Monday at ten, when both are. -/
def mondayAtTen : Instant := ⟨1704103200, 0⟩

theorem nestedHours_atEight : nestedHours.gapAt mondayAtEight = .ok ⟨54000, some 0⟩ := by
  decide +kernel

theorem nestedHours_atTen : nestedHours.gapAt mondayAtTen = .ok ⟨7200, some 1⟩ := by
  decide +kernel

/-- Monday morning alone. -/
def mondayMorning : WeeklySchedule where
  ranges := [⟨"09:00", "12:00", "mon", "mon"⟩]

/-- At ten the schedule is still active, but the morning has overtaken the longer range. -/
theorem decision_kept_nested :
    nestedHours.HasConstantOffset
    ∧ nestedHours.gapAt mondayAtEight = .ok ⟨54000, some 0⟩
    ∧ nestedHours.gapAt mondayAtTen = .ok ⟨7200, some 1⟩
    ∧ IsOvertaken nestedHours.ranges (WeekPoint.at Zone.utc mondayAtEight)
        (WeekPoint.at Zone.utc mondayAtTen) 0 := by
  have hs : nestedHours.HasConstantOffset := hasConstantOffset_of_blank rfl
  refine ⟨hs, nestedHours_atEight, nestedHours_atTen, ?_⟩
  obtain ⟨zone, gap', hzone, hgap', -, hrange⟩ :=
    decision_kept (u := mondayAtTen) hs nestedHours_atEight (by decide) (.inl (by decide))
  rw [nestedHours_atTen, Except.ok.injEq] at hgap'
  have hutc : readZone nestedHours.zone = .ok Zone.utc := rfl
  rw [hutc, Except.ok.injEq] at hzone
  rw [← hgap', ← hzone] at hrange
  by_contra hnot
  have hsame := hrange.2 (by
    rintro ⟨n, hn, h⟩
    rw [← Option.some.inj hn] at h
    exact hnot h)
  cases hsame

/-- Neither the range that decides nor whether the schedule is active need stay as it is at every
instant in the gap: a range may open in it that closes sooner, and half a second before a window
opens the gap ends half a second after it has. -/
theorem decision_lost :
    (¬ ∀ (s : WeeklySchedule) (t u : Instant) (gap gap' : Gap), s.HasConstantOffset →
      s.gapAt t = .ok gap → u.before t = false → u.before (t.addSeconds gap.seconds) = true →
      s.gapAt u = .ok gap' → gap'.range = gap.range)
    ∧ ¬ ∀ (s : WeeklySchedule) (t u : Instant) (gap gap' : Gap), s.HasConstantOffset →
      s.gapAt t = .ok gap → u.before t = false → u.before (t.addSeconds gap.seconds) = true →
      s.gapAt u = .ok gap' → gap'.isInside = gap.isInside := by
  constructor
  · intro hkept
    have hsame := hkept nestedHours mondayAtEight mondayAtTen ⟨54000, some 0⟩ ⟨7200, some 1⟩
      (hasConstantOffset_of_blank rfl) nestedHours_atEight (by decide) (by decide)
      nestedHours_atTen
    cases hsame
  · intro hkept
    have hbefore : mondayMorning.gapAt ⟨1704099599, 500000000⟩ = .ok ⟨1, none⟩ := by
      decide +kernel
    have hafter : mondayMorning.gapAt ⟨1704099600, 200000000⟩ = .ok ⟨10800, some 0⟩ := by
      decide +kernel
    have hsame := hkept mondayMorning ⟨1704099599, 500000000⟩ ⟨1704099600, 200000000⟩ _ _
      (hasConstantOffset_of_blank rfl) hbefore (by decide) (by decide) hafter
    cases hsame

end Slumber
