import Mathlib.Order.Bounds.Basic
import Slumber.Proofs.Schedule.Boundaries
import Slumber.Time.ClockHistory

/-!
# The gap is exact

A range means a walk through the days of the week, from one day forward to another and past
Saturday to Sunday if need be, and a stretch of each of these days. Said in these words, the gap at
an instant is the time until the first of the ranges closes that the instant lies in, and the first
in the list of those that close then is the one that decides. At an instant outside all ranges the
gap is the time until the first point of the week that lies in one. Nothing of this mentions the two
windows into which a range is split over the end of the week.

* `WeekPoint.after` — going round the week;
* `WeeklyRange.span?`, `WeeklySpan.Contains` — what a range means;
* `WeeklySpan.exists_window_iff`, `mem_windowsFrom_iff` — windows and what the ranges mean;
* `WeeklySchedule.IsOpen`, `Gap.IsExact` — the gap in these words;
* `Gap.IsExact.unique`, `Gap.IsExact.decides` — no other gap is exact, and which range decides;
* `gapAtPoint_isExact`, `gapAt_exact` — the gap that is computed is that gap.
-/

namespace Slumber

open Time

/-! ### Going round the week -/

namespace WeekPoint

variable {p q : WeekPoint} {n : Nat}

/-- The point of the week at so many seconds from its start. -/
def ofPosition (n : Nat) : WeekPoint :=
  ⟨n / secondsPerDay, n % secondsPerDay⟩

/-- The point of the week that comes `n` seconds after another. -/
def after (p : WeekPoint) (n : Nat) : WeekPoint :=
  ofPosition ((p.position + n) % secondsPerWeek)

theorem after_isValid (p : WeekPoint) (n : Nat) : (p.after n).IsValid := by
  constructor
  · show (p.position + n) % 604800 / 86400 < 7
    omega
  · show (p.position + n) % 604800 % 86400 < 86400
    omega

theorem position_after (p : WeekPoint) (n : Nat) :
    (p.after n).position = (p.position + n) % 604800 := by
  show (p.position + n) % 604800 / 86400 * 86400 + (p.position + n) % 604800 % 86400 = _
  omega

theorem IsValid.position_lt (hp : p.IsValid) : p.position < 604800 := by
  have hday := hp.day
  have hsecond := hp.second
  rw [position, secondsPerDay]
  omega

/-- Points are told apart by their positions. -/
theorem IsValid.eq_of_position (hp : p.IsValid) (hq : q.IsValid) (h : p.position = q.position) :
    p = q := by
  have hsecond := hp.second
  have hsecond' := hq.second
  rw [position, position, secondsPerDay] at h
  cases p
  cases q
  simp only [WeekPoint.mk.injEq] at *
  omega

theorem IsValid.eq_after (hp : p.IsValid) (h : p.position = (q.position + n) % 604800) :
    p = q.after n :=
  hp.eq_of_position (q.after_isValid n) (h.trans (q.position_after n).symm)

theorem IsValid.after_zero (hp : p.IsValid) : p.after 0 = p := by
  have hposition := hp.position_lt
  exact (hp.eq_after (by omega)).symm

end WeekPoint

/-! ### What a range means -/

/-- The days from one to another, going forward. -/
def Weekday.daysUntil (d e : Weekday) : Nat :=
  (e.ordinal + 7 - d.ordinal) % 7

/-- A range that has been read: from which day forward to which one, and from which second of each
of these days to which one. -/
structure WeeklySpan where
  first : Weekday
  last : Weekday
  opens : Nat
  closes : Nat
deriving DecidableEq, Repr

/-- What a range means, if its days and its times can be read. -/
def WeeklyRange.span? (r : WeeklyRange) : Option WeeklySpan := do
  let first ← Weekday.ofText? r.weekdayFrom
  let last ← Weekday.ofText? r.weekdayTo
  let opens ← readTimeOfDay? r.timeFrom
  let closes ← readTimeOfDay? r.timeTo
  return { first, last, opens, closes }

namespace WeeklySpan

/-- The day is met on the walk from the first day forward to the last. -/
def HasDay (span : WeeklySpan) (day : Nat) : Prop :=
  ∃ n ≤ span.first.daysUntil span.last, day = (span.first.ordinal + n) % 7

/-- The range does not close before it opens. -/
def IsLive (span : WeeklySpan) : Prop :=
  span.opens ≤ span.closes

/-- The point of the week lies in the range, both ends of the time included. -/
def Contains (span : WeeklySpan) (p : WeekPoint) : Prop :=
  span.HasDay p.day ∧ span.opens ≤ p.second ∧ p.second ≤ span.closes

/-- The windows of a range with number `n`. -/
def windows (n : Nat) (span : WeeklySpan) : List Window :=
  if span.first.ordinal ≤ span.last.ordinal then
    [⟨n, span.first.ordinal, span.last.ordinal, span.opens, span.closes⟩]
  else [⟨n, span.first.ordinal, 6, span.opens, span.closes⟩,
    ⟨n, 0, span.last.ordinal, span.opens, span.closes⟩]

variable {span : WeeklySpan} {w : Window} {p : WeekPoint} {n : Nat}

/-- A window of a range keeps its number and its times, and has one day at least. -/
theorem of_mem_windows (hw : w ∈ span.windows n) : w.range = n ∧ w.opens = span.opens
    ∧ w.closes = span.closes ∧ w.firstDay ≤ w.lastDay := by
  have hfirst := span.first.ordinal_lt
  unfold windows at hw
  split at hw
  · rw [List.mem_singleton.1 hw]
    exact ⟨rfl, rfl, rfl, by assumption⟩
  · rcases List.mem_cons.1 hw with rfl | hw
    · exact ⟨rfl, rfl, rfl, Nat.le_of_lt_succ hfirst⟩
    · rw [List.mem_singleton.1 hw]
      exact ⟨rfl, rfl, rfl, Nat.zero_le _⟩

/-- The days of the windows are the days of the walk. -/
theorem exists_window_day_iff {day : Nat} (hday : day < 7) :
    (∃ w ∈ span.windows n, w.firstDay ≤ day ∧ day ≤ w.lastDay) ↔ span.HasDay day := by
  have hfirst := span.first.ordinal_lt
  have hlast := span.last.ordinal_lt
  unfold windows HasDay Weekday.daysUntil
  split
  · simp only [List.mem_singleton, exists_eq_left]
    refine ⟨fun ⟨h, h'⟩ => ⟨day - span.first.ordinal, ?_, ?_⟩, ?_⟩
    · omega
    · omega
    · rintro ⟨k, hk, rfl⟩
      omega
  · simp only [List.mem_cons, List.not_mem_nil, or_false, exists_eq_or_imp, exists_eq_left]
    constructor
    · rintro (⟨h, h'⟩ | ⟨h, h'⟩)
      · exact ⟨day - span.first.ordinal, by omega, by omega⟩
      · exact ⟨day + 7 - span.first.ordinal, by omega, by omega⟩
    · rintro ⟨k, hk, rfl⟩
      omega

/-- A point lies in a range just when it lies in one of its windows. -/
theorem exists_window_iff (hp : p.IsValid) :
    (∃ w ∈ span.windows n, w.contains p = true) ↔ span.Contains p := by
  unfold Contains
  rw [← exists_window_day_iff (n := n) hp.day]
  constructor
  · rintro ⟨w, hw, hin⟩
    obtain ⟨-, hopens, hcloses, -⟩ := of_mem_windows hw
    obtain ⟨hfrom, hto, hopen, hclose⟩ := Window.contains_iff.1 hin
    rw [hopens] at hopen
    rw [hcloses] at hclose
    exact ⟨⟨w, hw, hfrom, hto⟩, hopen, hclose⟩
  · rintro ⟨⟨w, hw, hfrom, hto⟩, hopen, hclose⟩
    obtain ⟨-, hopens, hcloses, -⟩ := of_mem_windows hw
    rw [← hopens] at hopen
    rw [← hcloses] at hclose
    exact ⟨w, hw, Window.contains_iff.2 ⟨hfrom, hto, hopen, hclose⟩⟩

end WeeklySpan

/-! ### Windows of ranges that can be read -/

namespace WeeklyRange

/-- Reading a range gives the windows of what it means. -/
theorem windows_eq_ok_iff {n : Nat} {r : WeeklyRange} {ws : List Window} :
    r.windows n = .ok ws ↔ ∃ span, r.span? = some span ∧ span.windows n = ws := by
  unfold windows span? readTimeOfDay
  dsimp only
  cases Weekday.ofText? r.weekdayFrom with
  | none => exact ⟨nofun, nofun⟩
  | some first =>
      cases Weekday.ofText? r.weekdayTo with
      | none => exact ⟨nofun, nofun⟩
      | some last =>
          cases readTimeOfDay? r.timeFrom with
          | none => exact ⟨nofun, nofun⟩
          | some opens =>
              cases readTimeOfDay? r.timeTo with
              | none => exact ⟨nofun, nofun⟩
              | some closes =>
                  simp only [bind, Except.bind, pure, Except.pure, Option.bind, Option.some.injEq,
                    exists_eq_left', WeeklySpan.windows]
                  split <;> simp only [Except.ok.injEq]

end WeeklyRange

/-- The windows are found unless some range cannot be read. -/
theorem exists_windowsFrom_iff {n : Nat} {rs : List WeeklyRange} :
    (∃ ws, windowsFrom n rs = .ok ws) ↔ ¬ ∃ r ∈ rs, r.span? = none := by
  induction rs generalizing n with
  | nil => simp [windowsFrom]
  | cons r rs ih =>
      simp only [List.mem_cons, exists_eq_or_imp]
      rw [not_or, ← ih (n := n + 1), ← Ne, Option.ne_none_iff_exists']
      constructor
      · rintro ⟨ws, h⟩
        obtain ⟨front, hfront, h⟩ := bind_eq_ok.1 h
        obtain ⟨rest, hrest, -⟩ := bind_eq_ok.1 h
        obtain ⟨span, hspan, -⟩ := WeeklyRange.windows_eq_ok_iff.1 hfront
        exact ⟨⟨span, hspan⟩, rest, hrest⟩
      · rintro ⟨⟨span, hspan⟩, rest, hrest⟩
        have hfront := (WeeklyRange.windows_eq_ok_iff (n := n)).2 ⟨span, hspan, rfl⟩
        exact ⟨_, bind_eq_ok.2 ⟨_, hfront, bind_eq_ok.2 ⟨rest, hrest, rfl⟩⟩⟩

/-- The windows are those of the ranges, each with the number of its range. -/
theorem mem_windowsFrom_iff {n : Nat} {rs : List WeeklyRange} {ws : List Window}
    (h : windowsFrom n rs = .ok ws) {w : Window} :
    w ∈ ws ↔ ∃ m span, (rs[m]?).bind WeeklyRange.span? = some span
      ∧ w ∈ span.windows (n + m) := by
  induction rs generalizing n ws with
  | nil =>
      cases h
      simp
  | cons r rs ih =>
      obtain ⟨front, hfront, h⟩ := bind_eq_ok.1 h
      obtain ⟨rest, hrest, h⟩ := bind_eq_ok.1 h
      cases h
      obtain ⟨span, hspan, rfl⟩ := WeeklyRange.windows_eq_ok_iff.1 hfront
      rw [List.mem_append, ih hrest]
      constructor
      · rintro (hw | ⟨m, span', hspan', hw⟩)
        · refine ⟨0, span, ?_, hw⟩
          rw [List.getElem?_cons_zero, Option.bind_some, hspan]
        · refine ⟨m + 1, span', ?_, ?_⟩
          · rwa [List.getElem?_cons_succ]
          · rwa [show n + (m + 1) = n + 1 + m by omega]
      · rintro ⟨m, span', hspan', hw⟩
        cases m with
        | zero =>
            rw [List.getElem?_cons_zero, Option.bind_some, hspan, Option.some.injEq] at hspan'
            rw [hspan']
            exact .inl hw
        | succ m =>
            rw [List.getElem?_cons_succ] at hspan'
            refine .inr ⟨m, span', hspan', ?_⟩
            rwa [show n + 1 + m = n + (m + 1) by omega]

/-- The windows stand in the order of the ranges. -/
theorem windowsFrom_pairwise {n : Nat} {rs : List WeeklyRange} {ws : List Window}
    (h : windowsFrom n rs = .ok ws) : ws.Pairwise (·.range ≤ ·.range) := by
  induction rs generalizing n ws with
  | nil =>
      cases h
      exact .nil
  | cons r rs ih =>
      obtain ⟨front, hfront, h⟩ := bind_eq_ok.1 h
      obtain ⟨rest, hrest, h⟩ := bind_eq_ok.1 h
      cases h
      obtain ⟨span, -, rfl⟩ := WeeklyRange.windows_eq_ok_iff.1 hfront
      have hrange : ∀ w ∈ span.windows n, w.range = n :=
        fun w hw => (WeeklySpan.of_mem_windows hw).1
      refine List.pairwise_append.2 ⟨?_, ih hrest, fun w hw w' hw' => ?_⟩
      · exact List.pairwise_of_forall_mem_list fun w hw w' hw' =>
          Nat.le_of_eq ((hrange w hw).trans (hrange w' hw').symm)
      · obtain ⟨m, span', -, hw'⟩ := (mem_windowsFrom_iff hrest).1 hw'
        rw [hrange w hw, (WeeklySpan.of_mem_windows hw').1]
        omega

/-! ### The first of the best gaps -/

namespace Gap

variable {p : WeekPoint} {w w' : Window}

theorem ofWindow_isInside_iff (p : WeekPoint) (w : Window) :
    (ofWindow p w).isInside = true ↔ w.contains p = true := by
  unfold ofWindow
  split
  · exact ⟨fun _ => by assumption, fun _ => rfl⟩
  · exact ⟨nofun, fun h => absurd h (by assumption)⟩

/-- Of two windows with the point the one that closes sooner gives the better gap. -/
theorem ofWindow_isBetter_iff (hin : w.contains p = true) (hin' : w'.contains p = true) :
    (ofWindow p w).isBetter (ofWindow p w') = true ↔ w.closes < w'.closes := by
  obtain ⟨-, -, -, hcloses⟩ := Window.contains_iff.1 hin
  obtain ⟨-, -, -, hcloses'⟩ := Window.contains_iff.1 hin'
  unfold ofWindow isBetter
  rw [if_pos hin, if_pos hin']
  show decide (w.closes - p.second < w'.closes - p.second) = true ↔ _
  rw [decide_eq_true_iff]
  omega

end Gap

/-! ### One window -/

namespace Window

variable {w : Window} {p : WeekPoint}

/-- The wait for the next start ends in the window. -/
theorem contains_after_untilStart (hw : w.IsWithinWeek) (hdays : w.firstDay ≤ w.lastDay)
    (hlive : w.isLive = true) (hp : p.IsValid) : w.contains (p.after (w.untilStart p)) = true := by
  have hopens := isLive_iff.1 hlive
  have hcloses := hw.closes
  have hlast := hw.lastDay
  have hposition := hp.position_lt
  rcases w.untilStart_cases p with ⟨hnone, -⟩ | ⟨day, hfirst, hday, hwait⟩
  · omega
  have hstart : (p.position + w.untilStart p) % 604800 = day * 86400 + w.opens := by
    rw [hwait, wait, secondsPerWeek, secondsPerDay]
    split <;> omega
  have hafter : p.after (w.untilStart p) = ⟨day, w.opens⟩ := by
    refine (p.after_isValid _).eq_of_position ⟨?_, ?_⟩ ?_
    · exact Nat.lt_of_le_of_lt hday hlast
    · exact Nat.lt_of_le_of_lt hopens hcloses
    · rw [WeekPoint.position_after, hstart]
      rfl
  rw [hafter]
  exact contains_iff.2 ⟨hfirst, hday, Nat.le_refl _, hopens⟩

end Window

/-! ### The gap in other words -/

namespace WeeklySchedule

/-- At a point of the week the range with number `n`, which means `span`, is open. -/
structure IsOpen (ranges : List WeeklyRange) (p : WeekPoint) (n : Nat) (span : WeeklySpan) :
    Prop where
  read : (ranges[n]?).bind WeeklyRange.span? = some span
  live : span.IsLive
  contains : span.Contains p

/-- Some range opens at all. -/
def HasLive (ranges : List WeeklyRange) : Prop :=
  ∃ r ∈ ranges, ∃ span, r.span? = some span ∧ span.IsLive

theorem IsOpen.hasLive {ranges : List WeeklyRange} {p : WeekPoint} {n : Nat} {span : WeeklySpan}
    (h : IsOpen ranges p n span) : HasLive ranges := by
  obtain ⟨r, hr, hspan⟩ := Option.bind_eq_some_iff.1 h.read
  exact ⟨r, List.mem_of_getElem? hr, span, hspan, h.live⟩

end WeeklySchedule

open WeeklySchedule

/-- What the gap at a point of the week is to be. Where a range is open, it is the shortest time
until one of them closes, and the number is that of the first range that closes then; elsewhere it
is the shortest time until a point where a range is open, or a week if none ever is. -/
structure Gap.IsExact (ranges : List WeeklyRange) (p : WeekPoint) (gap : Gap) : Prop where
  isInside_iff : gap.isInside = true ↔ ∃ n span, IsOpen ranges p n span
  inside : ∀ n, gap.range = some n →
    IsLeast {k | ∃ m span, IsOpen ranges p m span ∧ k = span.closes - p.second} gap.seconds
    ∧ IsLeast {m | ∃ span, IsOpen ranges p m span ∧ gap.seconds = span.closes - p.second} n
  outside : gap.range = none → HasLive ranges →
    IsLeast {k | 0 < k ∧ ∃ m span, IsOpen ranges (p.after k) m span} gap.seconds
  never : gap.range = none → ¬ HasLive ranges → gap.seconds = secondsPerWeek

section

variable {ranges : List WeeklyRange} {windows : List Window} {p : WeekPoint}

/-- The open ranges are those of the open windows. -/
theorem exists_isOpen_iff (hwindows : windowsFrom 0 ranges = .ok windows) (hp : p.IsValid)
    {n closes : Nat} : (∃ span, IsOpen ranges p n span ∧ span.closes = closes)
      ↔ ∃ w ∈ windows, w.isLive = true ∧ w.contains p = true ∧ w.range = n
        ∧ w.closes = closes := by
  constructor
  · rintro ⟨span, hopen, rfl⟩
    obtain ⟨w, hw, hin⟩ := (WeeklySpan.exists_window_iff (n := n) hp).2 hopen.contains
    obtain ⟨hrange, hopens, hcloses, -⟩ := WeeklySpan.of_mem_windows hw
    refine ⟨w, (mem_windowsFrom_iff hwindows).2 ⟨n, span, hopen.read, ?_⟩, ?_, hin, hrange, hcloses⟩
    · rwa [Nat.zero_add]
    · rw [Window.isLive_iff, hopens, hcloses]
      exact hopen.live
  · rintro ⟨w, hw, hlive, hin, rfl, rfl⟩
    obtain ⟨m, span, hread, hw⟩ := (mem_windowsFrom_iff hwindows).1 hw
    obtain ⟨hrange, hopens, hcloses, -⟩ := WeeklySpan.of_mem_windows hw
    rw [Nat.zero_add] at hrange
    rw [Window.isLive_iff, hopens, hcloses] at hlive
    rw [hrange, hcloses]
    exact ⟨span, ⟨hread, hlive, (WeeklySpan.exists_window_iff hp).1 ⟨w, hw, hin⟩⟩, rfl⟩

/-- A range opens at all just when a window does. -/
theorem hasLive_iff (hwindows : windowsFrom 0 ranges = .ok windows) :
    HasLive ranges ↔ ∃ w ∈ windows, w.isLive = true := by
  constructor
  · rintro ⟨r, hr, span, hspan, hlive⟩
    obtain ⟨n, hn⟩ := List.mem_iff_getElem?.1 hr
    have hfirst : span.HasDay span.first.ordinal :=
      ⟨0, Nat.zero_le _, by have := span.first.ordinal_lt; omega⟩
    obtain ⟨w, hw, -⟩ :=
      (WeeklySpan.exists_window_day_iff (n := 0 + n) span.first.ordinal_lt).2 hfirst
    obtain ⟨-, hopens, hcloses, -⟩ := WeeklySpan.of_mem_windows hw
    refine ⟨w, (mem_windowsFrom_iff hwindows).2 ⟨n, span, ?_, hw⟩, ?_⟩
    · rw [hn, Option.bind_some, hspan]
    · rw [Window.isLive_iff, hopens, hcloses]
      exact hlive
  · rintro ⟨w, hw, hlive⟩
    obtain ⟨m, span, hread, hw⟩ := (mem_windowsFrom_iff hwindows).1 hw
    obtain ⟨-, hopens, hcloses, -⟩ := WeeklySpan.of_mem_windows hw
    rw [Window.isLive_iff, hopens, hcloses] at hlive
    obtain ⟨r, hr, hspan⟩ := Option.bind_eq_some_iff.1 hread
    exact ⟨r, List.mem_of_getElem? hr, span, hspan, hlive⟩

/-- Inside, the gap is that of the window that closes first, and of several such windows that of
the first in the list. -/
theorem gapAtPoint_first (hsorted : windows.Pairwise (·.range ≤ ·.range))
    (h : (gapAtPoint windows p).isInside = true) :
    ∃ w ∈ windows, w.isLive = true ∧ w.contains p = true
      ∧ gapAtPoint windows p = ⟨w.closes - p.second, some w.range⟩
      ∧ ∀ w' ∈ windows, w'.isLive = true → w'.contains p = true →
          w.closes < w'.closes ∨ w.closes = w'.closes ∧ w.range ≤ w'.range := by
  unfold gapAtPoint at h ⊢
  cases hbest : Gap.best? ((windows.filter Window.isLive).map (Gap.ofWindow p)) with
  | none =>
      rw [hbest] at h
      cases h
  | some best =>
      rw [hbest] at h
      rw [Option.getD_some] at h ⊢
      obtain ⟨front, back, hsplit, hfront, hback⟩ := Gap.best?_first hbest
      obtain ⟨before, rest, hlive, rfl, hrest⟩ := List.map_eq_append_iff.1 hsplit
      obtain ⟨w, behind, rfl, rfl, rfl⟩ := List.map_eq_cons_iff.1 hrest
      have hw : w ∈ windows.filter Window.isLive := by
        rw [hlive]
        exact List.mem_append_right _ List.mem_cons_self
      have hin := (Gap.ofWindow_isInside_iff p w).1 h
      obtain ⟨hmem, hopen⟩ := List.mem_filter.1 hw
      refine ⟨w, hmem, hopen, hin, if_pos hin, fun w' hw' hlive' hin' => ?_⟩
      have hw' : w' ∈ before ++ w :: behind := hlive ▸ List.mem_filter.2 ⟨hw', hlive'⟩
      rcases List.mem_append.1 hw' with hw' | hw'
      · exact .inl ((Gap.ofWindow_isBetter_iff hin hin').1 (hfront _ (List.mem_map_of_mem hw')))
      rcases List.mem_cons.1 hw' with rfl | hw'
      · exact .inr ⟨rfl, Nat.le_refl _⟩
      · have hle : ¬ w'.closes < w.closes := fun hlt => by
          have hback' := hback _ (List.mem_map_of_mem hw')
          rw [(Gap.ofWindow_isBetter_iff hin' hin).2 hlt] at hback'
          cases hback'
        have hordered := hsorted.filter Window.isLive
        rw [hlive] at hordered
        have hrange :=
          (List.pairwise_cons.1 (List.pairwise_append.1 hordered).2.1).1 w' hw'
        omega

/-- Outside, the gap ends at the start of a window. -/
theorem gapAtPoint_next (hwindows : windowsFrom 0 ranges = .ok windows)
    (hout : (gapAtPoint windows p).isInside = false) (hlive : HasLive ranges) (hp : p.IsValid) :
    ∃ w ∈ windows, w.isLive = true
      ∧ w.contains (p.after (gapAtPoint windows p).seconds) = true := by
  rcases gapAtPoint_cases windows p with ⟨-, hdead⟩ | ⟨⟨w, hw, hopen, hgap⟩, -⟩
  · obtain ⟨w, hw, hopen⟩ := (hasLive_iff hwindows).1 hlive
    rw [hdead w hw] at hopen
    cases hopen
  · have hnot := (gapAtPoint_outside hout hw hopen).1
    obtain ⟨m, span, -, hpart⟩ := (mem_windowsFrom_iff hwindows).1 hw
    refine ⟨w, hw, hopen, ?_⟩
    rw [hgap, Gap.ofWindow, if_neg (Bool.not_eq_true _ ▸ hnot)]
    exact Window.contains_after_untilStart (windowsFrom_isWithinWeek hwindows w hw)
      (WeeklySpan.of_mem_windows hpart).2.2.2 hopen hp

/-- **Exact gaps.**  The gap at a point of the week is what it is to be. -/
theorem gapAtPoint_isExact (hwindows : windowsFrom 0 ranges = .ok windows) (hp : p.IsValid) :
    (gapAtPoint windows p).IsExact ranges p where
  isInside_iff := by
    constructor
    · intro h
      obtain ⟨w, hw, hlive, hin, -⟩ := gapAtPoint_inside h
      obtain ⟨span, hopen, -⟩ :=
        (exists_isOpen_iff hwindows hp).2 ⟨w, hw, hlive, hin, rfl, rfl⟩
      exact ⟨w.range, span, hopen⟩
    · rintro ⟨n, span, hopen⟩
      obtain ⟨w, hw, hlive, hin, -⟩ := (exists_isOpen_iff hwindows hp).1 ⟨span, hopen, rfl⟩
      exact gapAtPoint_isInside_of_contains hw hlive hin
  inside n hn := by
    have hinside : (gapAtPoint windows p).isInside = true := by
      rw [Gap.isInside, hn]
      rfl
    obtain ⟨w, hw, hlive, hin, hgap, hfirst⟩ :=
      gapAtPoint_first (windowsFrom_pairwise hwindows) hinside
    rw [hgap] at hn ⊢
    cases hn
    obtain ⟨span, hopen, hcloses⟩ :=
      (exists_isOpen_iff hwindows hp).2 ⟨w, hw, hlive, hin, rfl, rfl⟩
    have hearliest : ∀ m span', IsOpen ranges p m span' →
        w.closes < span'.closes ∨ w.closes = span'.closes ∧ w.range ≤ m := by
      intro m span' hopen'
      obtain ⟨w', hw', hlive', hin', rfl, hcloses'⟩ :=
        (exists_isOpen_iff hwindows hp).1 ⟨span', hopen', rfl⟩
      rw [← hcloses']
      exact hfirst w' hw' hlive' hin'
    refine ⟨⟨⟨w.range, span, hopen, ?_⟩, ?_⟩, ⟨span, hopen, ?_⟩, ?_⟩
    · rw [hcloses]
    · rintro k ⟨m, span', hopen', rfl⟩
      have hclose := hearliest m span' hopen'
      show w.closes - p.second ≤ span'.closes - p.second
      omega
    · rw [hcloses]
    · rintro m ⟨span', hopen', hsame⟩
      have hclose := hearliest m span' hopen'
      have hsecond := hopen.contains.2.2
      have hsecond' := hopen'.contains.2.2
      dsimp only at hsame
      omega
  outside hnone hlive := by
    have hout := Gap.isInside_eq_false_iff.2 hnone
    have hwithin := windowsFrom_isWithinWeek hwindows
    constructor
    · obtain ⟨w, hw, hopen, hin⟩ := gapAtPoint_next hwindows hout hlive hp
      obtain ⟨span, hspan, -⟩ := (exists_isOpen_iff hwindows (p.after_isValid _)).2
        ⟨w, hw, hopen, hin, rfl, rfl⟩
      refine ⟨Nat.pos_of_ne_zero fun hzero => ?_, w.range, span, hspan⟩
      rw [hzero, hp.after_zero, (gapAtPoint_outside hout hw hopen).1] at hin
      cases hin
    · rintro k ⟨-, m, span, hopen⟩
      obtain ⟨w, hw, hlive', hin, -⟩ :=
        (exists_isOpen_iff hwindows (p.after_isValid k)).1 ⟨span, hopen, rfl⟩
      obtain ⟨hnot, hle⟩ := gapAtPoint_outside hout hw hlive'
      refine Nat.le_of_not_lt fun hlt => ?_
      rw [Window.not_contains_sooner (hwithin w hw) hp (p.after_isValid k) (p.position_after k)
        hnot (Nat.lt_of_lt_of_le hlt hle)] at hin
      cases hin
  never hnone hdead := by
    rcases gapAtPoint_cases windows p with ⟨hgap, -⟩ | ⟨⟨w, hw, hlive, -⟩, -⟩
    · rw [hgap]
    · exact absurd ((hasLive_iff hwindows).2 ⟨w, hw, hlive⟩) hdead

end

namespace Gap.IsExact

variable {ranges : List WeeklyRange} {p : WeekPoint} {gap gap' : Gap} {k : Nat}

/-- There is only one such gap. -/
theorem unique (h : gap.IsExact ranges p) (h' : gap'.IsExact ranges p) : gap = gap' := by
  have hsame : gap.isInside = gap'.isInside :=
    Bool.eq_iff_iff.2 (h.isInside_iff.trans h'.isInside_iff.symm)
  obtain ⟨seconds, range⟩ := gap
  obtain ⟨seconds', range'⟩ := gap'
  cases range with
  | none =>
      cases range' with
      | some n' => cases hsame
      | none =>
          have hseconds : seconds = seconds' := by
            by_cases hlive : HasLive ranges
            · exact (h.outside rfl hlive).unique (h'.outside rfl hlive)
            · exact (h.never rfl hlive).trans (h'.never rfl hlive).symm
          rw [hseconds]
  | some n =>
      cases range' with
      | none => cases hsame
      | some n' =>
          have hseconds : seconds = seconds' := (h.inside n rfl).1.unique (h'.inside n' rfl).1
          subst hseconds
          have hnumber : n = n' := (h.inside n rfl).2.unique (h'.inside n' rfl).2
          rw [hnumber]

/-- The range that decides is open and closes when the gap is over, and of the open ranges it is the
first of those that close first. -/
theorem decides (h : gap.IsExact ranges p) {n : Nat} (hn : gap.range = some n) :
    ∃ span, IsOpen ranges p n span ∧ p.second + gap.seconds = span.closes
      ∧ ∀ m other, IsOpen ranges p m other →
          span.closes < other.closes ∨ span.closes = other.closes ∧ n ≤ m := by
  obtain ⟨hleast, ⟨span, hopen, hspan⟩, hfirst⟩ := h.inside n hn
  have hsecond := hopen.contains.2.2
  refine ⟨span, hopen, by omega, fun m other hother => ?_⟩
  have hsecond' := hother.contains.2.2
  have hcloses := hleast.2 ⟨m, other, hother, rfl⟩
  rcases Nat.lt_or_ge span.closes other.closes with hlt | hge
  · exact .inl hlt
  · exact .inr ⟨by omega, hfirst ⟨other, hother, by omega⟩⟩

/-- A point without an open range is followed by such points until the gap is over. -/
theorem outside_kept (hp : p.IsValid) (h : gap.IsExact ranges p)
    (h' : gap'.IsExact ranges (p.after k)) (hout : gap.isInside = false) (hk : k < gap.seconds) :
    gap'.isInside = false := by
  rw [← Bool.not_eq_true]
  intro hin
  obtain ⟨m, span, hopen⟩ := h'.isInside_iff.1 hin
  rcases Nat.eq_zero_or_pos k with rfl | hpos
  · rw [hp.after_zero] at hopen
    rw [h.isInside_iff.2 ⟨m, span, hopen⟩] at hout
    cases hout
  · have hleast := h.outside (isInside_eq_false_iff.1 hout) hopen.hasLive
    exact Nat.not_lt.2 (hleast.2 ⟨hpos, m, span, hopen⟩) hk

/-- When it is over, some range is open, unless there is none that ever is. -/
theorem outside_over (h : gap.IsExact ranges p) (h' : gap'.IsExact ranges (p.after gap.seconds))
    (hout : gap.isInside = false) (hlive : HasLive ranges) : gap'.isInside = true :=
  h'.isInside_iff.2 (h.outside (isInside_eq_false_iff.1 hout) hlive).1.2

end Gap.IsExact

/-! ### The main theorem -/

theorem exists_error_iff {ε α : Type} {x : Except ε α} :
    (∃ e, x = .error e) ↔ ¬ ∃ a, x = .ok a := by
  cases x with
  | error e => exact ⟨fun _ => nofun, fun _ => ⟨e, rfl⟩⟩
  | ok a => exact ⟨nofun, fun h => absurd ⟨a, rfl⟩ h⟩

/-- **The gap is exact.**  A schedule has a gap at an instant just when its zone and the days and
times of all its ranges can be read. That gap is the only one that is exact at the point of the week
that the clock of the zone shows then. -/
theorem gapAt_exact [ZoneDatabase] (s : WeeklySchedule) (t : Instant) :
    ((∃ fault, s.gapAt t = .error fault)
      ↔ (∃ fault, readZone s.zone = .error fault) ∨ ∃ r ∈ s.ranges, r.span? = none)
    ∧ ∀ gap, s.gapAt t = .ok gap ↔ (¬ ∃ r ∈ s.ranges, r.span? = none)
        ∧ ∃ zone, readZone s.zone = .ok zone ∧ gap.IsExact s.ranges (WeekPoint.at zone t) := by
  have hreadable : (∃ windows, windowsFrom 0 s.ranges = .ok windows)
      ↔ ¬ ∃ r ∈ s.ranges, r.span? = none := exists_windowsFrom_iff
  refine ⟨?_, fun gap => ⟨fun h => ?_, ?_⟩⟩
  · rw [exists_error_iff, exists_error_iff, ← not_iff_comm.1 hreadable.symm, ← not_and_or,
      not_iff_not]
    constructor
    · rintro ⟨gap, h⟩
      obtain ⟨zone, windows, hzone, hwindows, -⟩ := WeeklySchedule.gapAt_eq_ok_iff.1 h
      exact ⟨⟨zone, hzone⟩, windows, hwindows⟩
    · rintro ⟨⟨zone, hzone⟩, windows, hwindows⟩
      exact ⟨_, WeeklySchedule.gapAt_eq_ok_iff.2 ⟨zone, windows, hzone, hwindows, rfl⟩⟩
  · obtain ⟨zone, windows, hzone, hwindows, rfl⟩ := WeeklySchedule.gapAt_eq_ok_iff.1 h
    exact ⟨hreadable.1 ⟨windows, hwindows⟩, zone, hzone,
      gapAtPoint_isExact hwindows (WeekPoint.at_isValid zone t)⟩
  · rintro ⟨hranges, zone, hzone, hexact⟩
    obtain ⟨windows, hwindows⟩ := hreadable.2 hranges
    have hgap := gapAtPoint_isExact hwindows (WeekPoint.at_isValid zone t)
    exact WeeklySchedule.gapAt_eq_ok_iff.2 ⟨zone, windows, hzone, hwindows, hgap.unique hexact⟩

open scoped Time.ClockHistory in
/-- On a Sunday at half past six in the evening, a range that closes before it opens counts for
nothing, and of the two that are open the one that closes first decides. -/
example : WeeklySchedule.gapAt ⟨[⟨"20:00", "18:00", "sat", "sun"⟩, ⟨"18:00", "20:00", "fri", "mon"⟩,
      ⟨"9", "19", "sun", "sun"⟩], ""⟩ ⟨1704652200, 0⟩ = .ok ⟨1800, some 2⟩ := by
  decide +kernel

end Slumber
