import Slumber.Proofs.Config
import Slumber.Proofs.Controller.Steps
import Slumber.Proofs.Schedule.Boundaries
import Slumber.Time.ClockHistory

/-!
# No boundary is missed

A controller that looks at a resource again and again, each time after the delay that the last look
asked for, looks at it soon after every boundary of its schedule: in the first seconds of the new
state, as many as the shortest delay has. And since the delays are never below the shortest time
between two actions, no look but the first comes too soon after an action.

* `Instant.count` — instants in nanoseconds, and how `Instant.elapsedSeconds` relates to them;
* `requeueDelay_spec`, `tickUnpaused_spec` — the delay and the status that one look gives;
* `Visit`, `IsChain` — looks that follow one another;
* `IsChain.caught`, `IsChain.not_debounced` — what holds of a chain;
* `no_flip_missed` — the main theorem.
-/

namespace Slumber

/-! ### Instants in nanoseconds -/

namespace Instant

/-- An instant as nanoseconds from 1970. An instant in a leap second counts as one in the second
after it. -/
def count (t : Instant) : Int :=
  t.seconds * nanosPerSecond + t.nanos

/-- The instant a length of time later. -/
def plus (t : Instant) (d : Duration) : Instant :=
  let u := t.addSeconds d.seconds
  ⟨u.seconds + ((u.nanos + d.nanos) / 1000000000 : Nat), (u.nanos + d.nanos) % 1000000000⟩

/-- Whole seconds after an instant outside leap seconds. -/
theorem plus_seconds {t : Instant} (ht : t.isLeap = false) (n : Nat) :
    t.plus ⟨n, 0⟩ = ⟨t.seconds + n, t.nanos⟩ := by
  have hnanos : t.nanos < 1000000000 := by
    unfold isLeap at ht
    simpa using ht
  have hadd : t.addSeconds n = ⟨t.seconds + n, t.nanos⟩ := by
    unfold addSeconds
    rw [ht]
    rfl
  unfold plus
  dsimp only
  rw [hadd]
  dsimp only
  rw [Nat.add_zero, Nat.div_eq_of_lt hnanos, Nat.mod_eq_of_lt hnanos]
  simp

/-- What elapses until an instant outside leap seconds is no less than the nanoseconds in between.
-/
theorem count_sub_le_elapsed {a : Instant} (ha : a.isLeap = false) (b : Instant) :
    a.count - b.count ≤ a.elapsed b := by
  -- Only a leap second of the earlier instant is counted.
  obtain ⟨leap, hleap, helapsed⟩ : ∃ leap : Int, 0 ≤ leap ∧ a.elapsed b
      = (a.seconds - b.seconds + leap) * nanosPerSecond + ((a.nanos : Int) - b.nanos) := by
    refine ⟨_, ?_, rfl⟩
    split
    · decide
    · exact Int.le_of_eq (if_neg (by simp [ha])).symm
  rw [helapsed]
  unfold count nanosPerSecond
  omega

/-- So after that many nanoseconds, that many whole seconds have elapsed. -/
theorem le_elapsedSeconds {a b : Instant} {n : Nat} (ha : a.isLeap = false)
    (h : b.count + n * nanosPerSecond ≤ a.count) : n ≤ a.elapsedSeconds b := by
  have helapsed := count_sub_le_elapsed ha b
  unfold elapsedSeconds
  unfold nanosPerSecond at h ⊢
  rw [Int.tdiv_eq_ediv_of_nonneg (by omega)]
  omega

end Instant

/-- An action that is long enough ago is not too soon. -/
theorem not_isTooSoon {h : History} {floor : Duration} {now : Instant} (hnow : now.isLeap = false)
    (hold : ∀ r ∈ h.entries, r.time.count + floor.seconds * Instant.nanosPerSecond ≤ now.count) :
    isTooSoon h floor now = false := by
  unfold isTooSoon
  split
  · rename_i r hr
    have hlong := Instant.le_elapsedSeconds hnow (hold r (List.mem_of_getLast? hr))
    rw [decide_eq_false_iff_not]
    omega
  · rfl

/-! ### One look -/

/-- The delay is whole seconds, no less than the shortest one, and no more than the gap unless it is
the shortest one. -/
theorem requeueDelay_spec (gap : Nat) (interval : Int) (shortest : Nat) :
    ∃ delay, requeueDelay gap interval ⟨shortest, 0⟩ = ⟨delay, 0⟩ ∧ shortest ≤ delay
      ∧ (delay = shortest ∨ delay ≤ gap) := by
  have hcapped : (if 0 < interval then min (gap : Int) interval else gap).toNat ≤ gap := by
    split <;> omega
  unfold requeueDelay
  dsimp only
  generalize (if 0 < interval then min (gap : Int) interval else gap).toNat = capped at hcapped
  unfold Duration.max
  dsimp only
  by_cases hshort : capped < shortest ∨ capped = shortest ∧ 0 < 0
  · rw [if_pos hshort]
    exact ⟨shortest, rfl, Nat.le_refl _, .inl rfl⟩
  · rw [if_neg hshort]
    exact ⟨capped, rfl, by omega, .inr hcapped⟩

section

variable {σ : Type} [ResourceClient σ] [ZoneDatabase] {h : Hibernator} {floor : Duration}
  {now : Instant} {c c' : σ} {t : Tick}

/-- What a look behind the pauses gives: the delay, the reason if nothing was done, and a status
whose revisions are from now or were there before. -/
theorem tickUnpaused_spec {notes : List String} {gap : Gap}
    (hgap : h.spec.schedule.gapAt now = .ok gap)
    (hrun : tickUnpaused h floor notes now c = .ok (t, c')) :
    t.requeueAfter = some (requeueDelay gap.seconds h.spec.resyncInterval.toInt floor)
    ∧ (t.outcome = .debounced → isTooSoon
        (History.ofEntries (h.status.getD {}).history h.spec.historyLimit) floor now = true)
    ∧ ∀ status, t.status = some status →
        ∀ r ∈ status.history, r.time = now ∨ r ∈ (h.status.getD {}).history := by
  unfold tickUnpaused at hrun
  rw [hgap] at hrun
  dsimp only at hrun
  split at hrun
  · rename_i hsoon
    cases hrun
    exact ⟨rfl, fun _ => hsoon, fun status hstatus => by cases hstatus⟩
  · unfold actAt at hrun
    obtain ⟨reports, c₁, -, hrun⟩ := Run.bind_ok.1 hrun
    cases hrun
    refine ⟨rfl, fun houtcome => ?_, fun status hstatus r hr => ?_⟩
    · dsimp only at houtcome
      split at houtcome <;> cases houtcome
    · cases hstatus
      rcases History.time_of_mem_foldl_entering hr with hnow | hr
      · exact .inl hnow
      · exact .inr (mem_ofEntries hr)

end

/-! ### Chains of looks -/

/-- One look: of which resource, when, in which state of the cluster, and what came of it. -/
structure Visit (σ : Type) where
  now : Instant
  resource : Hibernator
  state : σ
  tick : Tick

/-- The looks with the numbers up to `n` follow one another: they are at a resource with the
schedule `s` and without a pause, each happens when the one before it asked for it, and the status
in between is stored or is not. -/
structure IsChain {σ : Type} [ResourceClient σ] [ZoneDatabase] (floor : Duration)
    (s : WeeklySchedule) (v : Nat → Visit σ) (n : Nat) : Prop where
  ticked : ∀ i ≤ n, ∃ c, tick (v i).resource floor (v i).now (v i).state = .ok ((v i).tick, c)
  schedule : ∀ i ≤ n, (v i).resource.spec.schedule = s
  unpaused : ∀ i ≤ n, (v i).resource.spec.pause = false ∧ (v i).resource.spec.pauseUntil = none
  follows : ∀ i < n, ∃ d, (v i).tick.requeueAfter = some d ∧ (v (i + 1)).now = (v i).now.plus d
  stored : ∀ i < n, (v (i + 1)).resource.status = (v i).resource.status
    ∨ (v (i + 1)).resource.status = ((v i).tick.status <|> (v i).resource.status)

/-- A schedule that can be read. -/
def WeeklySchedule.IsValid [ZoneDatabase] (s : WeeklySchedule) : Prop :=
  ∃ t gap, s.gapAt t = .ok gap

/-- The revisions that a look finds. -/
def Visit.revisions {σ : Type} (v : Visit σ) : List Revision :=
  (v.resource.status.getD {}).history

namespace IsChain

variable {σ : Type} [ResourceClient σ] [ZoneDatabase] {s : WeeklySchedule} {v : Nat → Visit σ}
  {shortest n i : Nat}

theorem mono {floor : Duration} {m : Nat} (h : IsChain floor s v n) (hm : m ≤ n) :
    IsChain floor s v m where
  ticked := fun i hi => h.ticked i (Nat.le_trans hi hm)
  schedule := fun i hi => h.schedule i (Nat.le_trans hi hm)
  unpaused := fun i hi => h.unpaused i (Nat.le_trans hi hm)
  follows := fun i hi => h.follows i (Nat.lt_of_lt_of_le hi hm)
  stored := fun i hi => h.stored i (Nat.lt_of_lt_of_le hi hm)

/-- What a look of a chain gives. -/
theorem spec {floor : Duration} (h : IsChain floor s v n) (hs : s.IsValid) (hi : i ≤ n) :
    ∃ gap, s.gapAt (v i).now = .ok gap
      ∧ (v i).tick.requeueAfter = some (requeueDelay gap.seconds
          (v i).resource.spec.resyncInterval.toInt floor)
      ∧ ((v i).tick.outcome = .debounced → ∃ capacity,
          isTooSoon (History.ofEntries (v i).revisions capacity) floor (v i).now = true)
      ∧ ∀ status, (v i).tick.status = some status →
          ∀ r ∈ status.history, r.time = (v i).now ∨ r ∈ (v i).revisions := by
  obtain ⟨t, gap₀, hgap₀⟩ := hs
  obtain ⟨zone, windows, -, -, hgaps⟩ := WeeklySchedule.gapAt_eq_ok hgap₀
  obtain ⟨c, hrun⟩ := h.ticked i hi
  obtain ⟨hpause, huntil⟩ := h.unpaused i hi
  have hgap := hgaps (v i).now
  rw [tick_of_unpaused hpause huntil] at hrun
  obtain ⟨hdelay, hsoon, htimes⟩ := tickUnpaused_spec (h.schedule i hi ▸ hgap) hrun
  exact ⟨_, hgap, hdelay, fun houtcome => ⟨_, hsoon houtcome⟩, htimes⟩

/-- **One step of a chain.**  The next look is whole seconds later, no fewer than the shortest
delay, and no more than the gap unless they are the shortest delay. -/
theorem step (h : IsChain ⟨shortest, 0⟩ s v n) (hs : s.IsValid) (hi : i < n)
    (hleap : (v i).now.isLeap = false) :
    ∃ gap delay, s.gapAt (v i).now = .ok gap ∧ shortest ≤ delay
      ∧ (delay = shortest ∨ delay ≤ gap.seconds)
      ∧ (v (i + 1)).now = ⟨(v i).now.seconds + delay, (v i).now.nanos⟩ := by
  obtain ⟨gap, hgap, hdelay, -⟩ := h.spec hs (Nat.le_of_lt hi)
  obtain ⟨delay, heq, hleast, hmost⟩ :=
    requeueDelay_spec gap.seconds (v i).resource.spec.resyncInterval.toInt shortest
  obtain ⟨d, hd, hnext⟩ := h.follows i hi
  rw [hdelay, heq, Option.some.injEq] at hd
  subst hd
  rw [Instant.plus_seconds hleap] at hnext
  exact ⟨gap, delay, hgap, hleast, hmost, hnext⟩

/-- No look of a chain is in a leap second if the first one is not. -/
theorem not_isLeap (h : IsChain ⟨shortest, 0⟩ s v n) (hs : s.IsValid)
    (hleap : (v 0).now.isLeap = false) (hi : i ≤ n) : (v i).now.isLeap = false := by
  induction i with
  | zero => exact hleap
  | succ i ih =>
      have hlast := ih (by omega)
      obtain ⟨-, delay, -, -, -, hnext⟩ := h.step hs hi hlast
      rw [hnext]
      exact hlast

/-- The looks of a chain get later and later. -/
theorem seconds_ge (h : IsChain ⟨shortest, 0⟩ s v n) (hs : s.IsValid)
    (hleap : (v 0).now.isLeap = false) (hi : i ≤ n) :
    (v 0).now.seconds + (i * shortest : Nat) ≤ (v i).now.seconds := by
  induction i with
  | zero => simp
  | succ i ih =>
      have hlast := ih (by omega)
      obtain ⟨-, delay, -, hleast, -, hnext⟩ :=
        h.step hs hi (h.not_isLeap hs hleap (Nat.le_of_succ_le hi))
      rw [hnext, Nat.succ_mul]
      dsimp only
      omega

/-- **Boundaries are caught.**  When a window opens or closes between the first and the last look of
a chain, some look comes in the first seconds from then on, as many as the shortest delay has. -/
theorem caught (h : IsChain ⟨shortest, 0⟩ s v n) (hs : s.IsValid) (hoffset : s.HasConstantOffset)
    (hshortest : 0 < shortest) (hleap : (v 0).now.isLeap = false) {second : Int}
    (hafter : (v 0).now.seconds < second) (hbefore : second ≤ (v n).now.seconds)
    (hflip : s.FlipsAt second) :
    ∃ i ≤ n, second ≤ (v i).now.seconds ∧ (v i).now.seconds < second + shortest := by
  induction n with
  | zero => omega
  | succ n ih =>
      rcases Int.lt_or_le (v n).now.seconds second with hlast | hlast
      · -- The window opens or closes after the look before the last one.
        obtain ⟨gap, delay, hgap, -, hdelay, hnext⟩ :=
          h.step hs (Nat.lt_succ_self n) (h.not_isLeap hs hleap (Nat.le_succ n))
        refine ⟨n + 1, Nat.le_refl _, hbefore, ?_⟩
        rw [hnext] at hbefore ⊢
        exact WeeklySchedule.flip_caught hoffset hgap hdelay hshortest hflip hlast hbefore
      · obtain ⟨i, hi, hcaught⟩ := ih (h.mono (Nat.le_succ n)) hlast
        exact ⟨i, Nat.le_succ_of_le hi, hcaught⟩

/-- Between two looks of a chain no revision is later than the first of them. -/
theorem revisions_le (h : IsChain ⟨shortest, 0⟩ s v n) (hs : s.IsValid)
    (hleap : (v 0).now.isLeap = false)
    (hstart : ∀ r ∈ (v 0).revisions, r.time.count ≤ (v 0).now.count) (hi : i < n) :
    ∀ r ∈ (v (i + 1)).revisions, r.time.count ≤ (v i).now.count := by
  -- A revision of a stored status is from the look, or was found by it.
  have hstored : ∀ i < n, (∀ r ∈ (v i).revisions, r.time.count ≤ (v i).now.count) →
      ∀ r ∈ (v (i + 1)).revisions, r.time.count ≤ (v i).now.count := by
    intro i hi hfound r hr
    obtain ⟨-, -, -, -, htimes⟩ := h.spec hs (Nat.le_of_lt hi)
    unfold Visit.revisions at hr
    rcases h.stored i hi with hsame | hnew
    · rw [hsame] at hr
      exact hfound r hr
    · rw [hnew] at hr
      cases hstatus : (v i).tick.status with
      | none =>
          rw [hstatus] at hr
          exact hfound r hr
      | some status =>
          rw [hstatus] at hr
          rcases htimes status hstatus r hr with hnow | hold
          · exact Int.le_of_eq (congrArg Instant.count hnow)
          · exact hfound r hold
  induction i with
  | zero => exact hstored 0 hi hstart
  | succ i ih =>
      refine hstored (i + 1) hi fun r hr => ?_
      have hold := ih (by omega) r hr
      obtain ⟨-, delay, -, -, -, hnext⟩ :=
        h.step hs (Nat.lt_of_succ_lt hi) (h.not_isLeap hs hleap (by omega))
      rw [hnext]
      unfold Instant.count Instant.nanosPerSecond at *
      dsimp only
      omega

/-- **No later look is too soon.** -/
theorem not_debounced (h : IsChain ⟨shortest, 0⟩ s v n) (hs : s.IsValid)
    (hleap : (v 0).now.isLeap = false)
    (hstart : ∀ r ∈ (v 0).revisions, r.time.count ≤ (v 0).now.count) (hi : i < n) :
    (v (i + 1)).tick.outcome ≠ .debounced := by
  intro hdebounced
  obtain ⟨-, -, -, hsoon, -⟩ := h.spec hs hi
  obtain ⟨capacity, hsoon⟩ := hsoon hdebounced
  obtain ⟨-, delay, -, hleast, -, hnext⟩ :=
    h.step hs hi (h.not_isLeap hs hleap (Nat.le_of_lt hi))
  rw [not_isTooSoon (h.not_isLeap hs hleap hi) fun r hr => ?_] at hsoon
  · cases hsoon
  · have hold := h.revisions_le hs hleap hstart hi r (mem_ofEntries hr)
    rw [hnext]
    unfold Instant.count Instant.nanosPerSecond at *
    dsimp only
    omega

end IsChain

/-! ### The main theorem -/

/-- **No boundary is missed.**  Take a schedule that can be read, with a clock of a constant offset,
and settings that have a shortest delay. Let looks follow one another, without a pause, whatever
else is asked for, in whichever states of the cluster, and whether or not their statuses are stored;
let the first one not be in a leap second. Then

* when a window opens or closes before the last of the looks, one of them comes in the first seconds
  from then on, as many as the shortest delay has;
* if no revision is later than the first look, where one in a leap second counts as one in the
  second after it, then no other look is too soon after an action;
* if the looks never end, every opening and closing of a window is caught. -/
theorem no_flip_missed {σ : Type} [ResourceClient σ] [ZoneDatabase] {config : Config}
    {floor : Duration} (hfloor : config.requeueFloor = .ok floor) (s : WeeklySchedule)
    (hs : s.IsValid) (hoffset : s.HasConstantOffset) (v : Nat → Visit σ)
    (hleap : (v 0).now.isLeap = false) :
    (∀ n, IsChain floor s v n →
      (∀ second, (v 0).now.seconds < second → second ≤ (v n).now.seconds → s.FlipsAt second →
        ∃ i ≤ n, second ≤ (v i).now.seconds ∧ (v i).now.seconds ≤ second + floor.seconds - 1)
      ∧ ((∀ r ∈ (v 0).revisions, r.time.count ≤ (v 0).now.count) →
          ∀ i < n, (v (i + 1)).tick.outcome ≠ .debounced))
    ∧ ((∀ n, IsChain floor s v n) →
      ∀ second, (v 0).now.seconds < second → s.FlipsAt second →
        ∃ i, second ≤ (v i).now.seconds ∧ (v i).now.seconds ≤ second + floor.seconds - 1) := by
  obtain rfl := Config.requeueFloor_eq_ok hfloor
  have hcaught : ∀ n, IsChain ⟨config.minResyncSeconds.toNat + 1, 0⟩ s v n →
      ∀ second, (v 0).now.seconds < second → second ≤ (v n).now.seconds → s.FlipsAt second →
        ∃ i ≤ n, second ≤ (v i).now.seconds
          ∧ (v i).now.seconds ≤ second + (config.minResyncSeconds.toNat + 1 : Nat) - 1 := by
    intro n hchain second hafter hbefore hflip
    obtain ⟨i, hi, hge, hlt⟩ :=
      hchain.caught hs hoffset (Nat.succ_pos _) hleap hafter hbefore hflip
    exact ⟨i, hi, hge, by omega⟩
  refine ⟨fun n hchain => ⟨hcaught n hchain, fun hstart i hi =>
    hchain.not_debounced hs hleap hstart hi⟩, fun hchain second hafter hflip => ?_⟩
  -- After enough looks the boundary lies in the past.
  have hlate := (hchain (second - (v 0).now.seconds).toNat).seconds_ge hs hleap (Nat.le_refl _)
  have hmany : (second - (v 0).now.seconds).toNat
      ≤ (second - (v 0).now.seconds).toNat * (config.minResyncSeconds.toNat + 1) :=
    Nat.le_mul_of_pos_right _ (Nat.succ_pos _)
  have hbefore : second ≤ (v (second - (v 0).now.seconds).toNat).now.seconds := by omega
  obtain ⟨i, -, hi⟩ := hcaught _ (hchain _) second hafter hbefore hflip
  exact ⟨i, hi⟩

/-! ### Two chains -/

section

variable [ZoneDatabase]

/-- A look that gives a tick. -/
theorem tick_ok_of_eq_some {h : Hibernator} {floor : Duration} {now : Instant} {c : Cluster}
    {t : Tick} (ht : (tick h floor now c).toOption.map (·.1) = some t) :
    ∃ c', tick h floor now c = .ok (t, c') := by
  cases hrun : tick h floor now c with
  | error e =>
      rw [hrun] at ht
      cases ht
  | ok p =>
      rw [hrun] at ht
      cases ht
      exact ⟨p.2, rfl⟩

/-- Two looks. -/
def twoVisits (first second : Visit Cluster) (i : Nat) : Visit Cluster :=
  if i = 0 then first else second

/-- Two looks at a resource without a pause are a chain, if the second one happens when the first
one asked for it. -/
theorem isChain_twoVisits {floor d : Duration} {s : WeeklySchedule} {first second : Visit Cluster}
    (hfirst : (tick first.resource floor first.now first.state).toOption.map (·.1)
      = some first.tick)
    (hsecond : (tick second.resource floor second.now second.state).toOption.map (·.1)
      = some second.tick)
    (hspec : second.resource.spec = first.resource.spec) (hs : first.resource.spec.schedule = s)
    (hpause : first.resource.spec.pause = false)
    (huntil : first.resource.spec.pauseUntil = none)
    (hd : first.tick.requeueAfter = some d) (hnow : second.now = first.now.plus d)
    (hstored : second.resource.status = (first.tick.status <|> first.resource.status)) :
    IsChain floor s (twoVisits first second) 1 where
  ticked := fun i _ => by
    unfold twoVisits
    split
    · exact tick_ok_of_eq_some hfirst
    · exact tick_ok_of_eq_some hsecond
  schedule := fun i _ => by
    unfold twoVisits
    split
    · exact hs
    · rw [hspec]
      exact hs
  unpaused := fun i _ => by
    unfold twoVisits
    split
    · exact ⟨hpause, huntil⟩
    · rw [hspec]
      exact ⟨hpause, huntil⟩
  follows := fun i hi => by
    obtain rfl : i = 0 := by omega
    exact ⟨d, hd, hnow⟩
  stored := fun i hi => by
    obtain rfl : i = 0 := by omega
    exact .inr hstored

end

open scoped Time.ClockHistory

/-- Office hours in Universal Time. -/
def officeHours : WeeklySchedule :=
  { ranges := [⟨"9", "17", "Mon", "Fri"⟩] }

/-- A look one minute before the office opens on a Monday. -/
def beforeOpening : Visit Cluster where
  now := ⟨1704099540, 0⟩
  resource := { namespaceName := "ops", name := "nights", spec := { schedule := officeHours } }
  state := .standard
  tick := {
    outcome := .idle
    status := some { state := .succeeded, action := some .unhibernate }
    requeueAfter := some ⟨61, 0⟩ }

/-- The next look, by default a minute and a second later. -/
def afterOpening : Visit Cluster where
  now := ⟨1704099601, 0⟩
  resource := { beforeOpening.resource with status := beforeOpening.tick.status }
  state := .standard
  tick := {
    outcome := .idle
    status := some { state := .succeeded, isHibernating := true, action := some .hibernate }
    requeueAfter := some ⟨28799, 0⟩ }

/-- The opening of the office is caught, and the look after it is not too soon. -/
theorem no_flip_missed_opening :
    ({} : Config).requeueFloor = .ok ⟨61, 0⟩
    ∧ officeHours.IsValid ∧ officeHours.HasConstantOffset
    ∧ IsChain ⟨61, 0⟩ officeHours (twoVisits beforeOpening afterOpening) 1
    ∧ officeHours.FlipsAt 1704099600
    ∧ (∃ i ≤ 1, 1704099600 ≤ (twoVisits beforeOpening afterOpening i).now.seconds
      ∧ (twoVisits beforeOpening afterOpening i).now.seconds ≤ 1704099600 + 61 - 1)
    ∧ afterOpening.tick.outcome ≠ .debounced := by
  have hs : officeHours.IsValid := ⟨⟨0, 0⟩, _, rfl⟩
  have hoffset : officeHours.HasConstantOffset := WeeklySchedule.hasConstantOffset_of_blank rfl
  have hchain : IsChain ⟨61, 0⟩ officeHours (twoVisits beforeOpening afterOpening) 1 :=
    isChain_twoVisits (by decide +kernel) (by decide +kernel) rfl rfl rfl rfl rfl
      (by decide +kernel) rfl
  have hflip : officeHours.FlipsAt 1704099600 := by
    unfold WeeklySchedule.FlipsAt
    decide +kernel
  obtain ⟨hcaught, -⟩ := no_flip_missed Config.requeueFloor_default officeHours hs hoffset
    (twoVisits beforeOpening afterOpening) rfl
  obtain ⟨hflips, houtcomes⟩ := hcaught 1 hchain
  exact ⟨Config.requeueFloor_default, hs, hoffset, hchain, hflip,
    hflips 1704099600 (by decide) (by decide) hflip,
    houtcomes (fun r hr => by cases hr) 0 (by decide)⟩

/-- A look at the start of a year, half a second after an action in a leap second. -/
def afterLeapSecond : Visit Cluster where
  now := ⟨1483228800, 0⟩
  resource := {
    namespaceName := "ops"
    name := "nights"
    spec := { resyncInterval := 1 }
    status := some { history := [⟨⟨1483228799, 1500000000⟩, 0, .hibernate, [], []⟩] } }
  state := .standard
  tick := { outcome := .debounced, requeueAfter := some ⟨61, 0⟩ }

/-- The clock of instants leaves the leap second out, so a second is missing when the next look asks
how long ago the action was: that the action is not later than the first look is not enough. -/
theorem leap_second_debounced :
    ({} : Config).requeueFloor = .ok ⟨61, 0⟩
    ∧ WeeklySchedule.IsValid {} ∧ WeeklySchedule.HasConstantOffset {}
    ∧ afterLeapSecond.now.isLeap = false
    ∧ (∀ r ∈ afterLeapSecond.revisions, afterLeapSecond.now.before r.time = false)
    ∧ ∃ next, IsChain ⟨61, 0⟩ {} (twoVisits afterLeapSecond next) 1
      ∧ next.tick.outcome = .debounced := by
  refine ⟨Config.requeueFloor_default, ⟨⟨0, 0⟩, _, rfl⟩,
    WeeklySchedule.hasConstantOffset_of_blank rfl, by decide, by decide,
    { afterLeapSecond with now := ⟨1483228861, 0⟩ }, ?_, rfl⟩
  exact isChain_twoVisits (by decide +kernel) (by decide +kernel) rfl rfl rfl rfl rfl
    (by decide +kernel) rfl

end Slumber
