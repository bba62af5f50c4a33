import Slumber.Schedule.Window

/-!
# No boundary before the gap is over

The gap that a schedule gives at an instant is the time in which nothing changes: from an instant
inside a window the schedule stays inside until the gap is over, and from one outside it stays
outside as long as the gap lasts. So looking again after the gap, or sooner, misses no boundary by
more than the shortest delay. All this needs a clock with a constant offset.

* `WeekPoint.position_at_add` — points of the week go round;
* `Window.contains_later`, `Window.not_contains_sooner` — what one window does;
* `gapAtPoint_inside`, `gapAtPoint_outside` — what the best of the gaps says about all windows;
* `WeeklySchedule.steady` — nothing changes in the gap;
* `WeeklySchedule.flip_caught` — a change in the delay comes at its end.
-/

namespace Slumber

open Time

/-! ### Points of the week -/

namespace WeekPoint

/-- A point of the week has one of seven days, and a second of that day. -/
structure IsValid (p : WeekPoint) : Prop where
  day : p.day < 7
  second : p.second < 86400

theorem at_isValid (z : Zone) (t : Instant) : (WeekPoint.at z t).IsValid := by
  constructor
  · show ((_ + 4 : Int) % 7).toNat < 7
    omega
  · show (_ % 86400 : Int).toNat < 86400
    omega

/-- The seconds of the week are the seconds that the clock has shown in all time. -/
theorem position_at (z : Zone) (t : Instant) : ((WeekPoint.at z t).position : Int)
    = (t.seconds + z.offsetAt t.seconds + 345600) % 604800 := by
  have hday : (WeekPoint.at z t).day
      = (((t.seconds + z.offsetAt t.seconds) / 86400 + 4) % 7).toNat := rfl
  have hsecond : (WeekPoint.at z t).second
      = ((t.seconds + z.offsetAt t.seconds) % 86400).toNat := rfl
  rw [position, hday, hsecond, secondsPerDay]
  omega

/-- Points of the week go round, by as much as the clock goes on. -/
theorem position_at_of_shown {z : Zone} {t u : Instant} {k : Nat}
    (hu : u.seconds + z.offsetAt u.seconds = t.seconds + z.offsetAt t.seconds + k) :
    (WeekPoint.at z u).position = ((WeekPoint.at z t).position + k) % 604800 := by
  have ht := position_at z t
  have hu' := position_at z u
  rw [hu] at hu'
  omega

/-- On a clock with a constant offset they go round by as much as time goes on. -/
theorem position_at_add {z : Zone} {offset : Int} (hz : ∀ n, z.offsetAt n = offset)
    {t u : Instant} {k : Nat} (hu : u.seconds = t.seconds + k) :
    (WeekPoint.at z u).position = ((WeekPoint.at z t).position + k) % 604800 := by
  refine position_at_of_shown ?_
  rw [hz, hz, hu]
  omega

end WeekPoint

/-! ### One window -/

namespace Window

variable {w : Window} {p q : WeekPoint} {k : Nat}

/-- The window lies within the week and closes before its days are over. -/
structure IsWithinWeek (w : Window) : Prop where
  lastDay : w.lastDay < 7
  closes : w.closes < 86400

theorem isLive_iff : w.isLive = true ↔ w.opens ≤ w.closes := by
  unfold isLive
  exact decide_eq_true_iff

theorem contains_iff : w.contains p = true
    ↔ w.firstDay ≤ p.day ∧ p.day ≤ w.lastDay ∧ w.opens ≤ p.second ∧ p.second ≤ w.closes := by
  unfold contains
  simp only [Bool.and_eq_true, decide_eq_true_eq]
  exact ⟨fun ⟨⟨⟨h₁, h₂⟩, h₃⟩, h₄⟩ => ⟨h₁, h₂, h₃, h₄⟩, fun ⟨h₁, h₂, h₃, h₄⟩ => ⟨⟨⟨h₁, h₂⟩, h₃⟩, h₄⟩⟩

/-- A point in the window is followed by points in the window until that closes. -/
theorem contains_later (hw : w.IsWithinWeek) (hp : p.IsValid) (hq : q.IsValid)
    (hpq : q.position = (p.position + k) % 604800) (h : w.contains p = true)
    (hk : p.second + k ≤ w.closes) : w.contains q = true := by
  have hcloses := hw.closes
  have hday := hp.day
  have hday' := hq.day
  have hsecond := hq.second
  rw [WeekPoint.position, WeekPoint.position, secondsPerDay] at hpq
  -- The point stays on its day.
  have hsame : q.day = p.day ∧ q.second = p.second + k := by omega
  rw [contains_iff] at h ⊢
  rw [hsame.1, hsame.2]
  omega

/-- The seconds from a point of the week to the next start of the window on a day. -/
def wait (w : Window) (p : WeekPoint) (day : Nat) : Nat :=
  if day * secondsPerDay + w.opens < p.position
  then day * secondsPerDay + w.opens + secondsPerWeek - p.position
  else day * secondsPerDay + w.opens - p.position

theorem untilStart_eq (w : Window) (p : WeekPoint) :
    w.untilStart p = ((w.days.map (w.wait p)).min?).getD secondsPerWeek := rfl

theorem mem_days {d : Nat} : d ∈ w.days ↔ w.firstDay ≤ d ∧ d ≤ w.lastDay := by
  unfold days
  rw [List.mem_map]
  constructor
  · rintro ⟨k, hk, rfl⟩
    have hk := List.mem_range.1 hk
    omega
  · rintro ⟨hfirst, hlast⟩
    exact ⟨d - w.firstDay, List.mem_range.2 (by omega), by omega⟩

/-- The next start is the one on some day of the window, if it has days at all. -/
theorem untilStart_cases (w : Window) (p : WeekPoint) :
    (w.lastDay < w.firstDay ∧ w.untilStart p = secondsPerWeek)
    ∨ ∃ d, w.firstDay ≤ d ∧ d ≤ w.lastDay ∧ w.untilStart p = w.wait p d := by
  rw [untilStart_eq]
  cases hmin : (w.days.map (w.wait p)).min? with
  | none =>
      have hdays := List.map_eq_nil_iff.1 (List.min?_eq_none_iff.1 hmin)
      refine .inl ⟨Nat.lt_of_not_le fun hle => ?_, rfl⟩
      have hfirst := mem_days.2 ⟨Nat.le_refl w.firstDay, hle⟩
      rw [hdays] at hfirst
      cases hfirst
  | some least =>
      obtain ⟨d, hd, rfl⟩ := List.mem_map.1 (List.min?_eq_some_iff.1 hmin).1
      obtain ⟨hfirst, hlast⟩ := mem_days.1 hd
      exact .inr ⟨d, hfirst, hlast, rfl⟩

/-- The next start is no later than the one on any day of the window. -/
theorem untilStart_le {d : Nat} (hfirst : w.firstDay ≤ d) (hlast : d ≤ w.lastDay) :
    w.untilStart p ≤ w.wait p d := by
  have hmem := List.mem_map_of_mem (f := w.wait p) (mem_days.2 ⟨hfirst, hlast⟩)
  rw [untilStart_eq]
  cases hmin : (w.days.map (w.wait p)).min? with
  | none =>
      rw [List.min?_eq_none_iff.1 hmin] at hmem
      cases hmem
  | some least => exact (List.min?_eq_some_iff.1 hmin).2 _ hmem

/-- A point outside the window is followed by points outside it until the next start. -/
theorem not_contains_sooner (hw : w.IsWithinWeek) (hp : p.IsValid) (hq : q.IsValid)
    (hpq : q.position = (p.position + k) % 604800) (h : w.contains p = false)
    (hk : k < w.untilStart p) : w.contains q = false := by
  cases hin : w.contains q with
  | false => rfl
  | true =>
      exfalso
      obtain ⟨hfirst, hlast, hopens, hcloses⟩ := contains_iff.1 hin
      have hle := untilStart_le (p := p) hfirst hlast
      have houtside : ¬ (w.firstDay ≤ p.day ∧ p.day ≤ w.lastDay ∧ w.opens ≤ p.second
          ∧ p.second ≤ w.closes) := by
        rw [← contains_iff, h]
        exact Bool.false_ne_true
      have hcloses' := hw.closes
      have hday := hp.day
      have hsecond := hp.second
      have hday' := hq.day
      have hsecond' := hq.second
      rw [WeekPoint.position, WeekPoint.position, secondsPerDay] at hpq
      rw [wait, WeekPoint.position, secondsPerDay, secondsPerWeek] at hle
      split at hle
      · -- The window opened on the day of the later point before the earlier one, which is then
        -- on that day and in the window too.
        omega
      · -- The window opens on that day only after the later point.
        omega

end Window

/-! ### The best gap -/

namespace Gap

theorem isInside_eq_false_iff {g : Gap} : g.isInside = false ↔ g.range = none := by
  unfold isInside
  rw [← Bool.not_eq_true, Option.not_isSome_iff_eq_none]

/-- A gap that is not better than one, and the one not better than another. -/
theorem isBetter_trans {a b c : Gap} (h : a.isBetter b = false) (h' : b.isBetter c = false) :
    a.isBetter c = false := by
  unfold isBetter at *
  cases ha : a.isInside <;> cases hb : b.isInside <;> cases hc : c.isInside <;>
    simp [ha, hb, hc] at * <;> omega

theorem isBetter_self (g : Gap) : g.isBetter g = false := by
  unfold isBetter
  simp

theorem isBetter_asymm {a b : Gap} (h : a.isBetter b = true) : b.isBetter a = false := by
  unfold isBetter at *
  cases ha : a.isInside <;> cases hb : b.isInside <;> simp [ha, hb] at * <;> omega

/-- A gap that is better than one that is not worse than a third is better than the third. -/
theorem isBetter_of_isBetter {a b c : Gap} (h : a.isBetter b = true) (h' : c.isBetter b = false) :
    a.isBetter c = true := by
  cases hac : a.isBetter c with
  | true => rfl
  | false =>
      rw [isBetter_trans hac h'] at h
      cases h

/-- Going through gaps keeps the first of the best: it is better than all before it, and none behind
it is better. -/
theorem foldl_first {gs : List Gap} {first best : Gap}
    (h : gs.foldl (fun best h => if h.isBetter best then h else best) first = best) :
    ∃ front back, first :: gs = front ++ best :: back
      ∧ (∀ g ∈ front, best.isBetter g = true) ∧ ∀ g ∈ back, g.isBetter best = false := by
  induction gs generalizing first with
  | nil =>
      subst h
      exact ⟨[], [], rfl, nofun, nofun⟩
  | cons second gs ih =>
      rw [List.foldl_cons] at h
      obtain ⟨front, back, hsplit, hfront, hback⟩ := ih h
      by_cases hbetter : second.isBetter first = true
      · rw [if_pos hbetter] at hsplit
        refine ⟨first :: front, back, congrArg (first :: ·) hsplit, fun g hg => ?_, hback⟩
        rcases List.mem_cons.1 hg with rfl | hg
        · cases front with
          | nil =>
              cases hsplit
              exact hbetter
          | cons g' front =>
              cases hsplit
              exact isBetter_of_isBetter (hfront _ List.mem_cons_self) (isBetter_asymm hbetter)
        · exact hfront g hg
      · rw [if_neg hbetter] at hsplit
        rw [Bool.not_eq_true] at hbetter
        cases front with
        | nil =>
            cases hsplit
            refine ⟨[], second :: gs, rfl, nofun, fun g hg => ?_⟩
            rcases List.mem_cons.1 hg with rfl | hg
            · exact hbetter
            · exact hback g hg
        | cons g' front =>
            cases hsplit
            have hfirst := hfront first List.mem_cons_self
            refine ⟨first :: second :: front, back, rfl, fun g hg => ?_, hback⟩
            rcases List.mem_cons.1 hg with rfl | hg
            · exact hfirst
            rcases List.mem_cons.1 hg with rfl | hg
            · exact isBetter_of_isBetter hfirst hbetter
            · exact hfront g (List.mem_cons_of_mem _ hg)

/-- The best of some gaps is the first of its sort among them. -/
theorem best?_first {gs : List Gap} {best : Gap} (h : best? gs = some best) :
    ∃ front back, gs = front ++ best :: back
      ∧ (∀ g ∈ front, best.isBetter g = true) ∧ ∀ g ∈ back, g.isBetter best = false := by
  cases gs with
  | nil => cases h
  | cons first gs =>
      rw [best?, Option.some.injEq] at h
      exact foldl_first h

/-- The best of some gaps is one of them, and none is better. -/
theorem best?_spec {gs : List Gap} {best : Gap} (h : best? gs = some best) :
    best ∈ gs ∧ ∀ g ∈ gs, g.isBetter best = false := by
  obtain ⟨front, back, rfl, hfront, hback⟩ := best?_first h
  refine ⟨List.mem_append_right _ List.mem_cons_self, fun g hg => ?_⟩
  rcases List.mem_append.1 hg with hg | hg
  · exact isBetter_asymm (hfront g hg)
  rcases List.mem_cons.1 hg with rfl | hg
  · exact isBetter_self g
  · exact hback g hg

end Gap

namespace WeeklySchedule

variable {windows : List Window} {p q : WeekPoint} {k : Nat}

/-- The gap is that of an open window, or the one of no window at all. -/
theorem gapAtPoint_cases (windows : List Window) (p : WeekPoint) :
    (gapAtPoint windows p = ⟨secondsPerWeek, none⟩ ∧ ∀ w ∈ windows, w.isLive = false)
    ∨ (∃ w ∈ windows, w.isLive = true ∧ gapAtPoint windows p = Gap.ofWindow p w)
      ∧ ∀ w ∈ windows, w.isLive = true →
          (Gap.ofWindow p w).isBetter (gapAtPoint windows p) = false := by
  unfold gapAtPoint
  cases hbest : Gap.best? ((windows.filter Window.isLive).map (Gap.ofWindow p)) with
  | none =>
      refine .inl ⟨rfl, fun w hw => ?_⟩
      cases hlive : w.isLive with
      | false => rfl
      | true =>
          have hmem := List.mem_map_of_mem (f := Gap.ofWindow p)
            (List.mem_filter.2 ⟨hw, hlive⟩)
          cases hgaps : (windows.filter Window.isLive).map (Gap.ofWindow p) with
          | nil =>
              rw [hgaps] at hmem
              cases hmem
          | cons first gs =>
              rw [hgaps] at hbest
              cases hbest
  | some g =>
      obtain ⟨hmem, hleast⟩ := Gap.best?_spec hbest
      obtain ⟨w, hw, rfl⟩ := List.mem_map.1 hmem
      obtain ⟨hw, hlive⟩ := List.mem_filter.1 hw
      exact .inr ⟨⟨w, hw, hlive, rfl⟩, fun w' hw' hlive' =>
        hleast _ (List.mem_map_of_mem (List.mem_filter.2 ⟨hw', hlive'⟩))⟩

/-- Inside, the gap lasts until a window closes that the point is in. -/
theorem gapAtPoint_inside (h : (gapAtPoint windows p).isInside = true) :
    ∃ w ∈ windows, w.isLive = true ∧ w.contains p = true
      ∧ p.second + (gapAtPoint windows p).seconds = w.closes := by
  rcases gapAtPoint_cases windows p with ⟨hgap, -⟩ | ⟨⟨w, hw, hlive, hgap⟩, -⟩
  · rw [hgap] at h
    cases h
  · rw [hgap] at h ⊢
    unfold Gap.ofWindow at h ⊢
    split at h
    · rename_i hin
      obtain ⟨-, -, -, hcloses⟩ := Window.contains_iff.1 hin
      rw [if_pos hin]
      refine ⟨w, hw, hlive, hin, ?_⟩
      show p.second + (w.closes - p.second) = w.closes
      omega
    · cases h

/-- Outside, no open window has the point, and the gap lasts no longer than until the next start of
each. -/
theorem gapAtPoint_outside (h : (gapAtPoint windows p).isInside = false) {w : Window}
    (hw : w ∈ windows) (hlive : w.isLive = true) :
    w.contains p = false ∧ (gapAtPoint windows p).seconds ≤ w.untilStart p := by
  rcases gapAtPoint_cases windows p with ⟨-, hdead⟩ | ⟨-, hleast⟩
  · rw [hdead w hw] at hlive
    cases hlive
  · have hbest := hleast w hw hlive
    unfold Gap.isBetter at hbest
    unfold Gap.ofWindow at hbest
    split at hbest
    · rw [h] at hbest
      cases hbest
    · rename_i hout
      rw [h] at hbest
      refine ⟨Bool.not_eq_true _ ▸ hout, ?_⟩
      have hle : ¬ w.untilStart p < (gapAtPoint windows p).seconds := by
        intro hlt
        simp [Gap.isInside, hlt] at hbest
      omega

/-- A point that an open window has is inside. -/
theorem gapAtPoint_isInside_of_contains {w : Window} (hw : w ∈ windows) (hlive : w.isLive = true)
    (hin : w.contains p = true) : (gapAtPoint windows p).isInside = true := by
  cases h : (gapAtPoint windows p).isInside with
  | true => rfl
  | false =>
      have hout := (gapAtPoint_outside h hw hlive).1
      rw [hin] at hout
      cases hout

/-- Points before the end of the gap are inside if the first one is, and else outside. -/
theorem gapAtPoint_steady (hwindows : ∀ w ∈ windows, w.IsWithinWeek) (hp : p.IsValid)
    (hq : q.IsValid) (hpq : q.position = (p.position + k) % 604800)
    (hk : k < (gapAtPoint windows p).seconds) :
    (gapAtPoint windows q).isInside = (gapAtPoint windows p).isInside := by
  cases h : (gapAtPoint windows p).isInside with
  | true =>
      obtain ⟨w, hw, hlive, hin, hcloses⟩ := gapAtPoint_inside h
      have hlater := Window.contains_later (hwindows w hw) hp hq hpq hin (by omega)
      exact gapAtPoint_isInside_of_contains hw hlive hlater
  | false =>
      cases h' : (gapAtPoint windows q).isInside with
      | false => rfl
      | true =>
          obtain ⟨w, hw, hlive, hin, -⟩ := gapAtPoint_inside h'
          obtain ⟨hout, hle⟩ := gapAtPoint_outside h hw hlive
          have hout' :=
            Window.not_contains_sooner (hwindows w hw) hp hq hpq hout (Nat.lt_of_lt_of_le hk hle)
          rw [hin] at hout'
          cases hout'

end WeeklySchedule

/-! ### Schedules that can be read -/

/-- Reading two parts goes well when reading each of them does. -/
theorem bind_eq_ok {ε α β : Type} {x : Except ε α} {f : α → Except ε β} {b : β} :
    (x >>= f) = .ok b ↔ ∃ a, x = .ok a ∧ f a = .ok b := by
  cases x with
  | error e => simp [bind, Except.bind]
  | ok a => simp [bind, Except.bind]

theorem readClockPart?_le {limit n : Nat} {cs : List Char} (h : readClockPart? limit cs = some n) :
    n ≤ limit := by
  unfold readClockPart? at h
  split at h
  · split at h
    · split at h
      · rename_i hle
        rw [← Option.some.inj h]
        exact hle
      · cases h
    · cases h
  · cases h

/-- A time of day comes before the end of the day. -/
theorem readTimeOfDay_lt {s : String} {n : Nat} (h : readTimeOfDay s = .ok n) : n < 86400 := by
  unfold readTimeOfDay at h
  split at h
  · rename_i m hm
    rw [Except.ok.injEq] at h
    subst h
    unfold readTimeOfDay? at hm
    split at hm
    · simp only [Option.bind_eq_bind, Option.bind_eq_some_iff, Option.pure_def,
        Option.some.injEq] at hm
      obtain ⟨a, ha, rfl⟩ := hm
      have := readClockPart?_le ha
      omega
    · simp only [Option.bind_eq_bind, Option.bind_eq_some_iff, Option.pure_def,
        Option.some.injEq] at hm
      obtain ⟨a, ha, b, hb, rfl⟩ := hm
      have := readClockPart?_le ha
      have := readClockPart?_le hb
      omega
    · simp only [Option.bind_eq_bind, Option.bind_eq_some_iff, Option.pure_def,
        Option.some.injEq] at hm
      obtain ⟨a, ha, b, hb, c, hc, rfl⟩ := hm
      have := readClockPart?_le ha
      have := readClockPart?_le hb
      have := readClockPart?_le hc
      omega
    · cases hm
  · cases h

/-- The windows of a range lie within the week. -/
theorem WeeklyRange.windows_isWithinWeek {n : Nat} {r : WeeklyRange} {ws : List Window}
    (h : r.windows n = .ok ws) : ∀ w ∈ ws, w.IsWithinWeek := by
  obtain ⟨first, -, h⟩ := bind_eq_ok.1 h
  obtain ⟨last, hlast, h⟩ := bind_eq_ok.1 h
  obtain ⟨opens, -, h⟩ := bind_eq_ok.1 h
  obtain ⟨closes, hcloses, h⟩ := bind_eq_ok.1 h
  have hcloses' := readTimeOfDay_lt hcloses
  have hlast' : last < 7 := by
    dsimp only at hlast
    cases hday : Weekday.ofText? r.weekdayTo with
    | none =>
        rw [hday] at hlast
        cases hlast
    | some d =>
        rw [hday] at hlast
        cases hlast
        exact d.ordinal_lt
  intro w hw
  split at h
  · cases h
    rw [List.mem_singleton.1 hw]
    exact ⟨hlast', hcloses'⟩
  · cases h
    rcases List.mem_cons.1 hw with rfl | hw
    · exact ⟨Nat.lt_succ_self 6, hcloses'⟩
    · rw [List.mem_singleton.1 hw]
      exact ⟨hlast', hcloses'⟩

/-- So do the windows of all ranges. -/
theorem windowsFrom_isWithinWeek {n : Nat} {rs : List WeeklyRange} {ws : List Window}
    (h : windowsFrom n rs = .ok ws) : ∀ w ∈ ws, w.IsWithinWeek := by
  induction rs generalizing n ws with
  | nil =>
      cases h
      intro w hw
      cases hw
  | cons r rs ih =>
      obtain ⟨first, hfirst, h⟩ := bind_eq_ok.1 h
      obtain ⟨rest, hrest, h⟩ := bind_eq_ok.1 h
      cases h
      intro w hw
      rcases List.mem_append.1 hw with hw | hw
      · exact r.windows_isWithinWeek hfirst w hw
      · exact ih hrest w hw

namespace WeeklySchedule

variable [ZoneDatabase]

/-- The clock of the schedule has the same offset at all times. -/
def HasConstantOffset (s : WeeklySchedule) : Prop :=
  ∃ zone offset, readZone s.zone = .ok zone ∧ ∀ n, zone.offsetAt n = offset

theorem hasConstantOffset_of_blank {s : WeeklySchedule} (h : s.zone = "") :
    s.HasConstantOffset := by
  have hblank : Text.trim "" = "" := by decide
  refine ⟨Time.Zone.utc, 0, ?_, fun _ => rfl⟩
  unfold readZone
  rw [h, hblank]
  rfl

/-- Whether a whole second lies in a window. -/
def isInsideAt (s : WeeklySchedule) (second : Int) : Bool :=
  match s.gapAt ⟨second, 0⟩ with
  | .ok gap => gap.isInside
  | .error _ => false

/-- A window opens or closes: a whole second lies in a window and the one before it does not, or the
other way round. -/
def FlipsAt (s : WeeklySchedule) (second : Int) : Prop :=
  s.isInsideAt second ≠ s.isInsideAt (second - 1)

variable {s : WeeklySchedule} {t : Instant} {gap : Gap}

/-- What a schedule gives at an instant, if its zone and its ranges can be read. -/
theorem gapAt_eq_ok_iff : s.gapAt t = .ok gap ↔ ∃ zone windows, readZone s.zone = .ok zone
    ∧ windowsFrom 0 s.ranges = .ok windows ∧ gapAtPoint windows (WeekPoint.at zone t) = gap := by
  constructor
  · intro h
    obtain ⟨zone, hzone, h⟩ := bind_eq_ok.1 h
    obtain ⟨windows, hwindows, h⟩ := bind_eq_ok.1 h
    cases h
    exact ⟨zone, windows, hzone, hwindows, rfl⟩
  · rintro ⟨zone, windows, hzone, hwindows, rfl⟩
    exact bind_eq_ok.2 ⟨zone, hzone, bind_eq_ok.2 ⟨windows, hwindows, rfl⟩⟩

/-- What a schedule that can be read gives at every instant. -/
theorem gapAt_eq_ok (h : s.gapAt t = .ok gap) : ∃ zone windows, readZone s.zone = .ok zone
    ∧ (∀ w ∈ windows, w.IsWithinWeek)
    ∧ ∀ u, s.gapAt u = .ok (gapAtPoint windows (WeekPoint.at zone u)) := by
  obtain ⟨zone, windows, hzone, hwindows, -⟩ := gapAt_eq_ok_iff.1 h
  exact ⟨zone, windows, hzone, windowsFrom_isWithinWeek hwindows,
    fun _ => gapAt_eq_ok_iff.2 ⟨zone, windows, hzone, hwindows, rfl⟩⟩

/-- **Nothing changes in the gap.**  The seconds before the end of the gap lie in windows if the
instant does, and else in none. -/
theorem steady (hs : s.HasConstantOffset) (hgap : s.gapAt t = .ok gap) {k : Nat}
    (hk : k < gap.seconds) :
    s.isInsideAt (t.seconds + k) = gap.isInside := by
  obtain ⟨zone, windows, hzone, hwithin, hgaps⟩ := gapAt_eq_ok hgap
  obtain ⟨zone', offset, hzone', hoffset⟩ := hs
  rw [hzone, Except.ok.injEq] at hzone'
  subst hzone'
  rw [hgaps t, Except.ok.injEq] at hgap
  subst hgap
  unfold isInsideAt
  rw [hgaps]
  exact gapAtPoint_steady hwithin (WeekPoint.at_isValid zone t) (WeekPoint.at_isValid zone _)
    (WeekPoint.position_at_add hoffset rfl) hk

/-- A change within the delay until the next look comes less than the shortest delay before that
look. -/
theorem flip_caught (hs : s.HasConstantOffset) (hgap : s.gapAt t = .ok gap) {second : Int}
    {delay shortest : Nat} (hdelay : delay = shortest ∨ delay ≤ gap.seconds)
    (hshortest : 0 < shortest) (hflip : s.FlipsAt second) (hafter : t.seconds < second)
    (hbefore : second ≤ t.seconds + delay) : t.seconds + delay < second + shortest := by
  rcases hdelay with rfl | hdelay
  · omega
  · obtain ⟨k, hk⟩ : ∃ k : Nat, second = t.seconds + (k + 1) :=
      ⟨(second - t.seconds - 1).toNat, by omega⟩
    have hprevious : s.isInsideAt (second - 1) = gap.isInside := by
      have hsecond : second - 1 = t.seconds + k := by omega
      rw [hsecond]
      exact steady hs hgap (by omega)
    rcases Int.lt_or_le (t.seconds + delay) (second + shortest) with hnear | hfar
    · exact hnear
    · refine absurd ?_ hflip
      rw [hprevious, hk]
      exact steady hs hgap (k := k + 1) (by omega)

end WeeklySchedule

end Slumber
