import Slumber.Proofs.Schedule.Exactness
import Slumber.Proofs.Time.ClockRules

/-!
# Gaps on clocks that are changed

At an instant outside all ranges the gap is what a clock has to go on until it shows a point of the
week in one of them. As long as the clock is not put forward or back, that is the time which elapses
until then. A change in the gap is not accounted for: after the clock has been put forward the
ranges open before the gap is over, and after it has been put back they open only later.

* `Zone.advance` — how far a clock goes on in some seconds;
* `WeekPoint.at_eq_after_advance` — going on in the week is what the clock does;
* `WeeklySchedule.gapOn` — the gap on a given clock;
* `gap_on_clock` — the main theorem;
* `gap_off_elapsed` — a gap with a change of the clock in it.
-/

namespace Slumber

open Time WeeklySchedule

/-! ### Clocks -/

/-- How many seconds a clock goes on in `k` seconds after an instant. -/
def Time.Zone.advance (z : Zone) (t : Instant) (k : Nat) : Int :=
  k + z.offsetAt (t.seconds + k) - z.offsetAt t.seconds

theorem Instant.addSeconds_seconds (t : Instant) (k : Nat) :
    (t.addSeconds k).seconds = t.seconds + k := by
  unfold addSeconds
  split
  · rfl
  · rw [if_pos (by omega)]

/-- Going on in the week is what the clock does. -/
theorem WeekPoint.at_eq_after_advance {z : Zone} {t : Instant} {k n : Nat}
    (h : z.advance t k = n) :
    WeekPoint.at z (t.addSeconds k) = (WeekPoint.at z t).after n := by
  refine (at_isValid z _).eq_after (position_at_of_shown ?_)
  rw [Instant.addSeconds_seconds]
  unfold Zone.advance at h
  omega

/-! ### The main theorem -/

/-- The gap of the ranges of a schedule on a given clock. -/
def WeeklySchedule.gapOn (zone : Zone) (s : WeeklySchedule) (t : Instant) :
    Except ScheduleFault Gap := do
  let windows ← windowsFrom 0 s.ranges
  return gapAtPoint windows (WeekPoint.at zone t)

/-- The gap of a schedule is the one on the clock of its zone. -/
theorem WeeklySchedule.gapAt_eq_gapOn [ZoneDatabase] {zone : Zone} {s : WeeklySchedule}
    (hzone : readZone s.zone = .ok zone) (t : Instant) : s.gapAt t = s.gapOn zone t := by
  unfold gapAt
  rw [hzone]
  rfl

/-- **Gaps on the clock.**  On any clock, let a schedule with a range that opens be inactive at an
instant. At instants after that at which the clock has gone on by less than the gap it is inactive,
and at those at which the clock has gone on by the gap it is active. So the gap is the time that
elapses until the schedule is active, unless the offset of the clock changes. -/
theorem gap_on_clock (zone : Zone) {s : WeeklySchedule} {t : Instant} {gap : Gap}
    (hlive : HasLive s.ranges) (hgap : s.gapOn zone t = .ok gap) (hout : gap.isInside = false)
    (k : Nat) : ∃ gap', s.gapOn zone (t.addSeconds k) = .ok gap'
      ∧ (zone.advance t k = gap.seconds → gap'.isInside = true)
      ∧ (0 ≤ zone.advance t k → zone.advance t k < gap.seconds → gap'.isInside = false) := by
  obtain ⟨windows, hwindows, hgap⟩ := bind_eq_ok.1 hgap
  cases hgap
  have hp := WeekPoint.at_isValid zone t
  have hexact := gapAtPoint_isExact hwindows hp
  have hexact' := gapAtPoint_isExact hwindows (WeekPoint.at_isValid zone (t.addSeconds k))
  refine ⟨_, bind_eq_ok.2 ⟨windows, hwindows, rfl⟩, fun hover => ?_, fun hstarted hbefore => ?_⟩
  · rw [WeekPoint.at_eq_after_advance hover] at hexact' ⊢
    exact hexact.outside_over hexact' hout hlive
  · obtain ⟨n, hn⟩ := Int.eq_ofNat_of_zero_le hstarted
    rw [WeekPoint.at_eq_after_advance hn] at hexact' ⊢
    exact hexact.outside_kept hp hexact' hout (by omega)

/-! ### Sundays on which the clocks are changed -/

open scoped Time.ClockHistory

/-- Monday from eight to six in Paris. -/
def mondayInParis : WeeklySchedule where
  ranges := [⟨"08:00", "18:00", "mon", "mon"⟩]
  zone := "Europe/Paris"

/-- Half an hour before the clocks are put forward. -/
def springNight : Instant := ⟨1711845000, 0⟩

/-- Two and a half hours before they are put back. -/
def autumnNight : Instant := ⟨1729981800, 0⟩

theorem mondayInParis_hasLive : HasLive mondayInParis.ranges :=
  ⟨_, List.mem_singleton_self _, ⟨.monday, .monday, 28800, 64800⟩, rfl, Nat.le_of_ble_eq_true rfl⟩

/-- What the clocks of Paris are ahead before the changes of a year and after them. -/
theorem paris_offsetAt :
    ClockHistory.paris.offsetAt 1711845000 = 3600 ∧ ClockHistory.paris.offsetAt 1711951200 = 7200
    ∧ ClockHistory.paris.offsetAt 1729981800 = 7200 ∧ ClockHistory.paris.offsetAt 1730095200 = 3600
    ∧ ClockHistory.paris.offsetAt 1730098800 = 3600 := by
  rw [ClockHistory.paris, ClockRule.changes_eq]
  decide +kernel

/-- The gap at an instant at which they are ahead by some offset. -/
theorem mondayInParis_gapOn {t : Instant} {offset : Int}
    (hoffset : ClockHistory.paris.offsetAt t.seconds = offset) :
    mondayInParis.gapOn ClockHistory.paris.zone t = .ok (gapAtPoint [⟨0, 1, 1, 28800, 64800⟩]
      ⟨weekdayOf ((t.seconds + offset) / 86400), ((t.seconds + offset) % 86400).toNat⟩) := by
  subst hoffset
  rfl

theorem mondayInParis_spring :
    mondayInParis.gapOn ClockHistory.paris.zone springNight = .ok ⟨109800, none⟩ := by
  rw [mondayInParis_gapOn paris_offsetAt.1]
  decide +kernel

theorem mondayInParis_autumn :
    mondayInParis.gapOn ClockHistory.paris.zone autumnNight = .ok ⟨113400, none⟩ := by
  rw [mondayInParis_gapOn paris_offsetAt.2.2.1]
  decide +kernel

/-- On the Monday after the clocks have been put back, the schedule is active when they have gone on
by the gap, which is one hour after the gap is over. -/
theorem gap_on_clock_autumn :
    HasLive mondayInParis.ranges
    ∧ mondayInParis.gapOn ClockHistory.paris.zone autumnNight = .ok ⟨113400, none⟩
    ∧ ClockHistory.paris.zone.advance autumnNight 117000 = 113400
    ∧ ∃ gap, mondayInParis.gapOn ClockHistory.paris.zone (autumnNight.addSeconds 117000) = .ok gap
      ∧ gap.isInside = true := by
  have hadvance : ClockHistory.paris.zone.advance autumnNight 117000 = 113400 := by
    show 117000 + ClockHistory.paris.offsetAt 1730098800 - ClockHistory.paris.offsetAt 1729981800
      = 113400
    rw [paris_offsetAt.2.2.2.2, paris_offsetAt.2.2.1]
    decide
  obtain ⟨gap, hgap, hactive, -⟩ :=
    gap_on_clock ClockHistory.paris.zone mondayInParis_hasLive mondayInParis_autumn rfl 117000
  exact ⟨mondayInParis_hasLive, mondayInParis_autumn, hadvance, gap, hgap, hactive hadvance⟩

/-- The gap is not the time that elapses until a schedule is active: on the Monday after the clocks
have been put back it is not active yet when the gap is over, and on the one after they have been
put forward it is so before. -/
theorem gap_off_elapsed :
    (¬ ∀ (s : WeeklySchedule) (t : Instant) (gap gap' : Gap), HasLive s.ranges →
      s.gapAt t = .ok gap → gap.isInside = false →
      s.gapAt (t.addSeconds gap.seconds) = .ok gap' → gap'.isInside = true)
    ∧ ¬ ∀ (s : WeeklySchedule) (t : Instant) (gap gap' : Gap) (k : Nat), HasLive s.ranges →
      s.gapAt t = .ok gap → gap.isInside = false → k < gap.seconds →
      s.gapAt (t.addSeconds k) = .ok gap' → gap'.isInside = false := by
  have hzone : readZone mondayInParis.zone = .ok ClockHistory.paris.zone := rfl
  constructor
  · intro hactive
    have hover :
        mondayInParis.gapOn ClockHistory.paris.zone ⟨1730095200, 0⟩ = .ok ⟨3600, none⟩ := by
      rw [mondayInParis_gapOn paris_offsetAt.2.2.2.1]
      decide +kernel
    have hinside := hactive mondayInParis autumnNight ⟨113400, none⟩ ⟨3600, none⟩
      mondayInParis_hasLive ((gapAt_eq_gapOn hzone _).trans mondayInParis_autumn) rfl
      ((gapAt_eq_gapOn hzone _).trans hover)
    cases hinside
  · intro hinactive
    have hbefore :
        mondayInParis.gapOn ClockHistory.paris.zone ⟨1711951200, 0⟩ = .ok ⟨36000, some 0⟩ := by
      rw [mondayInParis_gapOn paris_offsetAt.2.1]
      decide +kernel
    have houtside := hinactive mondayInParis springNight ⟨109800, none⟩ ⟨36000, some 0⟩ 106200
      mondayInParis_hasLive ((gapAt_eq_gapOn hzone _).trans mondayInParis_spring) rfl
      (by decide) ((gapAt_eq_gapOn hzone _).trans hbefore)
    cases houtside

end Slumber
