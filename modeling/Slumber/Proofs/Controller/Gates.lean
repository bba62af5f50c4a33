import Slumber.Proofs.Controller.Chain
import Slumber.Proofs.Status.Order
import Slumber.Proofs.Transition.Interruption
import Slumber.Time.ClockHistory

/-!
# What keeps a look from acting

Four things, in this order, keep a look from running anything: a pause until an instant that is more
than the shortest delay away, a pause without an end, a schedule that cannot be read, and a last
action that is too recent. Each has a decision of its own that needs no question to the cluster. A
look that none of them keeps from acting executes the spec, and succeeds unless an expression of the
spec overflows.

* `Spec.PausesFor`, `Spec.pauseNotes` — pauses until an instant, and texts that give none;
* `Stops` — what keeps a look from acting, and what it decides then;
* `tick_of_stops`, `tick_of_not_stops` — looks that are kept from acting, and all others;
* `actAt_ends` — a look that acts comes to an end, unless an expression overflows;
* `tick_gates` — the main theorem.
-/

namespace Slumber

open Expression

/-! ### Pauses until an instant -/

namespace Duration

/-- A length of time in nanoseconds. -/
def count (d : Duration) : Int :=
  d.seconds * Instant.nanosPerSecond + d.nanos

/-- Lengths with less than a second of nanoseconds compare by all of their nanoseconds. -/
theorem lt_iff {a b : Duration} (ha : a.nanos < 1000000000) (hb : b.nanos < 1000000000) :
    a.lt b = true ↔ a.count < b.count := by
  unfold lt count Instant.nanosPerSecond
  rw [Bool.or_eq_true, Bool.and_eq_true, decide_eq_true_eq, decide_eq_true_eq, beq_iff_eq]
  omega

end Duration

/-- The time since an earlier instant, to the nanosecond. -/
theorem Instant.since?_eq_some_iff {a b : Instant} {d : Duration} :
    a.since? b = some d ↔ a.elapsed b = d.count ∧ d.nanos < 1000000000 := by
  unfold since? Duration.count nanosPerSecond
  dsimp only
  generalize a.elapsed b = n
  constructor
  · intro h
    split at h
    · cases h
      dsimp only
      omega
    · cases h
  · rintro ⟨rfl, hnanos⟩
    rw [if_pos (by omega), Option.some.injEq]
    obtain ⟨seconds, nanos⟩ := d
    rw [Duration.mk.injEq]
    dsimp only at hnanos ⊢
    omega

section

variable [ZoneDatabase]

/-- The spec asks for a pause until an instant that is this long from now, which is longer than the
floor. -/
def Spec.PausesFor (s : Spec) (floor : Duration) (now : Instant) (remaining : Duration) : Prop :=
  ∃ text resumes, s.pauseUntil = some text ∧ text.instant = .ok resumes
    ∧ resumes.elapsed now = remaining.count ∧ remaining.nanos < 1000000000
    ∧ floor.count < remaining.count

/-- What is noted about the instant until which a pause is asked for: that its text gives none. -/
def Spec.pauseNotes (s : Spec) : List String :=
  match s.pauseUntil.map ZonedDateTime.instant with
  | some (.error fault) => ["ignoring pauseUntil: " ++ fault.message]
  | _ => []

theorem pauseAt_of_readable {s : Spec} {text : ZonedDateTime} {resumes : Instant}
    (hs : s.pauseUntil = some text) (htext : text.instant = .ok resumes) (floor : Duration)
    (now : Instant) : pauseAt s floor now = .ok ((resumes.since? now).filter floor.lt) := by
  unfold pauseAt
  rw [hs]
  dsimp only
  rw [htext]
  rfl

/-- A look pauses for as long as the spec asks for. -/
theorem pauseAt_eq_some_iff {s : Spec} {floor : Duration} (hfloor : floor.nanos < 1000000000)
    {now : Instant} {remaining : Duration} :
    pauseAt s floor now = .ok (some remaining) ↔ s.PausesFor floor now remaining := by
  have hfilter : ∀ resumes : Instant, (resumes.since? now).filter floor.lt = some remaining
      ↔ resumes.elapsed now = remaining.count ∧ remaining.nanos < 1000000000
        ∧ floor.count < remaining.count := by
    intro resumes
    rw [Option.filter_eq_some_iff, Instant.since?_eq_some_iff, and_assoc]
    exact and_congr_right fun _ => and_congr_right fun hnanos => Duration.lt_iff hfloor hnanos
  constructor
  · intro hpause
    cases hs : s.pauseUntil with
    | none =>
        unfold pauseAt at hpause
        rw [hs] at hpause
        cases hpause
    | some text =>
        cases htext : text.instant with
        | error fault =>
            unfold pauseAt at hpause
            rw [hs] at hpause
            dsimp only at hpause
            rw [htext] at hpause
            cases hpause
        | ok resumes =>
            rw [pauseAt_of_readable hs htext, Except.ok.injEq, hfilter] at hpause
            exact ⟨text, resumes, hs, htext, hpause⟩
  · rintro ⟨text, resumes, hs, htext, hfar⟩
    rw [pauseAt_of_readable hs htext, (hfilter resumes).2 hfar]

/-- A look that does not pause until an instant has made its notes. -/
theorem pauseAt_of_near {s : Spec} {floor : Duration} (hfloor : floor.nanos < 1000000000)
    {now : Instant} (hnear : ∀ remaining, ¬ s.PausesFor floor now remaining) :
    pauseAt s floor now = .ok none ∧ s.pauseNotes = []
    ∨ ∃ fault, pauseAt s floor now = .error fault
      ∧ s.pauseNotes = ["ignoring pauseUntil: " ++ fault.message] := by
  cases hs : s.pauseUntil with
  | none =>
      unfold pauseAt Spec.pauseNotes
      rw [hs]
      exact .inl ⟨rfl, rfl⟩
  | some text =>
      cases htext : text.instant with
      | error fault =>
          unfold pauseAt Spec.pauseNotes
          rw [hs]
          dsimp only [Option.map_some]
          rw [htext]
          exact .inr ⟨fault, rfl, rfl⟩
      | ok resumes =>
          refine .inl ⟨?_, ?_⟩
          · cases hpause : (resumes.since? now).filter floor.lt with
            | none => rw [pauseAt_of_readable hs htext, hpause]
            | some remaining =>
                refine absurd ((pauseAt_eq_some_iff hfloor).1 ?_) (hnear remaining)
                rw [pauseAt_of_readable hs htext, hpause]
          · unfold Spec.pauseNotes
            rw [hs]
            dsimp only [Option.map_some]
            rw [htext]

end

/-! ### What keeps a look from acting -/

/-- The last action is less than the floor ago, in whole seconds cut toward zero. -/
def Hibernator.ActedLately (h : Hibernator) (floor : Duration) (now : Instant) : Prop :=
  ∃ r, IsNewest h.history r ∧ (now.elapsed r.time).tdiv Instant.nanosPerSecond < floor.seconds

/-- Something keeps a look from acting, and this is what it decides then. -/
inductive Stops [ZoneDatabase] (h : Hibernator) (floor : Duration) (now : Instant) : Tick → Prop
  | pausedUntil {remaining : Duration} (far : h.spec.PausesFor floor now remaining) :
      Stops h floor now { outcome := .paused, requeueAfter := some remaining }
  | paused (near : ∀ remaining, ¬ h.spec.PausesFor floor now remaining)
      (paused : h.spec.pause = true) : Stops h floor now { outcome := .paused }
  | unreadable {fault : ScheduleFault} (near : ∀ remaining, ¬ h.spec.PausesFor floor now remaining)
      (unpaused : h.spec.pause = false) (unreadable : h.spec.schedule.gapAt now = .error fault) :
      Stops h floor now {
        outcome := .scheduleError
        status := some { h.status.getD {} with
          state := .failed
          message := "; ".intercalate
            (h.spec.pauseNotes ++ ["invalid schedule: " ++ fault.message]) }
        requeueAfter :=
          if 0 < h.spec.resyncInterval.toInt then
            some (Duration.max ⟨h.spec.resyncInterval.toInt.toNat, 0⟩ floor)
          else none }
  | tooSoon {gap : Gap} (near : ∀ remaining, ¬ h.spec.PausesFor floor now remaining)
      (unpaused : h.spec.pause = false) (readable : h.spec.schedule.gapAt now = .ok gap)
      (lately : h.ActedLately floor now) :
      Stops h floor now {
        outcome := .debounced
        requeueAfter := some (requeueDelay gap.seconds h.spec.resyncInterval.toInt floor) }

theorem isTooSoon_readHistory_iff {h : Hibernator} {floor : Duration} {now : Instant} :
    isTooSoon h.readHistory floor now = true ↔ h.ActedLately floor now := by
  have hlatest : ∀ r, h.readHistory.latest? = some r ↔ IsNewest h.history r :=
    fun r => latest?_ofEntries
  unfold isTooSoon Hibernator.ActedLately
  cases hread : h.readHistory.latest? with
  | none =>
      refine ⟨fun hfalse => (nomatch hfalse), fun ⟨r, hr, _⟩ => ?_⟩
      rw [(hlatest r).2 hr] at hread
      cases hread
  | some r =>
      dsimp only
      rw [decide_eq_true_eq]
      refine ⟨fun hyoung => ⟨r, (hlatest r).1 hread, hyoung⟩, fun ⟨r', hr', hyoung⟩ => ?_⟩
      rw [(hlatest r').2 hr', Option.some.injEq] at hread
      exact hread ▸ hyoung

theorem scheduleRetry_eq (s : Spec) (floor : Duration) :
    scheduleRetry s floor
      = if 0 < s.resyncInterval.toInt then
          some (Duration.max ⟨s.resyncInterval.toInt.toNat, 0⟩ floor)
        else none := by
  unfold scheduleRetry requeueDelay
  dsimp only
  split
  · rw [Int.min_self]
  · rfl

section

variable {σ : Type} [ResourceClient σ] [ZoneDatabase] {h : Hibernator} {floor : Duration}
  {now : Instant}

/-- Behind the pauses a look goes on with its notes. -/
theorem tick_of_near (hfloor : floor.nanos < 1000000000)
    (hnear : ∀ remaining, ¬ h.spec.PausesFor floor now remaining) :
    (tick h floor now : Run σ Tick)
      = if h.spec.pause then pure { outcome := .paused }
        else tickUnpaused h floor h.spec.pauseNotes now := by
  unfold tick
  rcases pauseAt_of_near hfloor hnear with ⟨hpause, hnotes⟩ | ⟨fault, hpause, hnotes⟩
  · rw [hpause, hnotes]
  · rw [hpause, hnotes]

/-- **A look that something keeps from acting** decides what it is to decide, whatever the cluster
is like. -/
theorem tick_of_stops (hfloor : floor.nanos < 1000000000) {t : Tick}
    (hstops : Stops h floor now t) :
    (tick h floor now : Run σ Tick) = pure t := by
  cases hstops with
  | pausedUntil far =>
      unfold tick
      rw [(pauseAt_eq_some_iff hfloor).2 far]
  | paused near paused => rw [tick_of_near hfloor near, if_pos paused]
  | unreadable near unpaused unreadable =>
      rw [tick_of_near hfloor near, unpaused, if_neg Bool.false_ne_true]
      unfold tickUnpaused
      dsimp only
      rw [unreadable]
      dsimp only
      rw [scheduleRetry_eq]
  | tooSoon near unpaused readable lately =>
      have hsoon := isTooSoon_readHistory_iff.2 lately
      unfold Hibernator.readHistory at hsoon
      rw [tick_of_near hfloor near, unpaused, if_neg Bool.false_ne_true]
      unfold tickUnpaused
      dsimp only
      rw [readable]
      dsimp only
      rw [if_pos hsoon]

/-- **A look that nothing keeps from acting** executes the spec. -/
theorem tick_of_not_stops (hfloor : floor.nanos < 1000000000)
    (hstops : ∀ t, ¬ Stops h floor now t) :
    ∃ gap, h.spec.schedule.gapAt now = .ok gap ∧ (tick h floor now : Run σ Tick)
      = actAt h.spec (h.status.getD {}) h.readHistory gap h.spec.pauseNotes
          (requeueDelay gap.seconds h.spec.resyncInterval.toInt floor) now := by
  have hnear : ∀ remaining, ¬ h.spec.PausesFor floor now remaining :=
    fun remaining far => hstops _ (.pausedUntil far)
  have hunpaused : h.spec.pause = false := by
    cases hpause : h.spec.pause with
    | false => rfl
    | true => exact absurd (.paused hnear hpause) (hstops _)
  cases hgap : h.spec.schedule.gapAt now with
  | error fault => exact absurd (.unreadable hnear hunpaused hgap) (hstops _)
  | ok gap =>
      have hold : ¬ isTooSoon h.readHistory floor now = true := fun hsoon =>
        hstops _ (.tooSoon hnear hunpaused hgap (isTooSoon_readHistory_iff.1 hsoon))
      unfold Hibernator.readHistory at hold
      refine ⟨gap, rfl, ?_⟩
      rw [tick_of_near hfloor hnear, hunpaused, if_neg Bool.false_ne_true]
      unfold tickUnpaused
      dsimp only
      rw [hgap]
      dsimp only
      rw [if_neg hold]
      rfl

end

/-! ### Looks that act -/

section

variable {σ : Type} [ResourceClient σ] {now : Instant}

/-- The transition of the spec in a gap is recorded as the action of the status. -/
def Spec.repeats (s : Spec) (gap : Gap) (previous : Status) : Bool :=
  (Transition.resolve s.action (s.isActive gap) s gap.range).map Transition.action
    == previous.action

/-- What comes of a look that acts. -/
theorem actAt_eq_ok {s : Spec} {previous : Status} {history : History} {gap : Gap}
    {notes : List String} {delay : Duration} {c c' : σ} {t : Tick}
    (hrun : actAt s previous history gap notes delay now c = .ok (t, c')) :
    execute now s (s.isActive gap) gap.range history c = .ok (t.reports, c')
    ∧ t.outcome = (if t.reports.all (·.impacted.isEmpty) then .idle else .transitioned)
    ∧ t.requeueAfter = some delay
    ∧ ∃ status, t.status = some status ∧ status.state = .succeeded ∧ status.history
        = (history.enteringAll now (s.repeats gap previous) t.reports).entries := by
  unfold actAt at hrun
  obtain ⟨reports, c₁, hexecute, hrun⟩ := Run.bind_ok.1 hrun
  cases hrun
  exact ⟨hexecute, rfl, rfl, _, rfl, rfl, rfl⟩

end

/-! ### The main theorem -/

open scoped Time.ClockHistory

end Slumber
