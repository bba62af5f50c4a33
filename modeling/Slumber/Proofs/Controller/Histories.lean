import Slumber.Proofs.Controller.Gates
import Slumber.Proofs.Controller.Waking
import Slumber.Time.ClockHistory

/-!
# Histories of whole runs

A resource is looked at again and again from a time on when it had no status. What is asked for, the
bound on the history and the cluster change in between, and statuses get lost. As long as the clock
does not go back, and the numbers of revisions fit 64 bits, every status has a history in order:
each look reads the stored history, drops what is beyond the bound, and adds behind the rest.

* `Succession` — looks that follow one another, whose statuses are stored or lost;
* `Visit.appended` — how many revisions of its own a look makes;
* `tick_status` — where the history of a status comes from;
* `Visit.KeepsHistory`, `Visit.keepsHistory` — what one look does to the history;
* `histories_wellFormed` — the main theorem.
-/

namespace Slumber

open Decimal

/-- An instant is no earlier than one that is no later than another one. -/
theorem Instant.before_trans {a b c : Instant} (hab : b.before a = false)
    (hbc : c.before b = false) : c.before a = false := by
  unfold before at *
  rw [Bool.or_eq_false_iff, Bool.and_eq_false_iff, decide_eq_false_iff_not,
    decide_eq_false_iff_not, beq_eq_false_iff_ne] at *
  omega

/-! ### One look -/

namespace History

/-- Reports that acted upon nothing leave the history as it is. -/
theorem enteringAll_of_quiet {h : History} {now : Instant} {resync : Bool} {reports : List Report}
    (hquiet : ∀ r ∈ reports, r.impacted = []) : h.enteringAll now resync reports = h := by
  induction reports with
  | nil => rfl
  | cons r reports ih =>
      have hr : h.entering now resync r = h := by
        unfold entering
        rw [hquiet r List.mem_cons_self]
        rfl
      rw [enteringAll_cons, hr]
      exact ih fun r' hr' => hquiet r' (List.mem_cons_of_mem _ hr')

/-- No more revisions are made than there are reports. -/
theorem appended_le_length (h : History) (now : Instant) (resync : Bool) (reports : List Report) :
    h.appended now resync reports ≤ reports.length := by
  induction reports generalizing h with
  | nil => exact Nat.le_refl 0
  | cons r reports ih =>
      have hone := Bool.toNat_le (h.appends resync r)
      have hrest := ih (h.entering now resync r)
      rw [appended, List.length_cons]
      omega

end History

section

variable {σ : Type} [ZoneDatabase]

/-- How many revisions of its own a look makes of its reports. -/
def Visit.appended (v : Visit σ) : Nat :=
  match v.resource.spec.schedule.gapAt v.now with
  | .ok gap =>
    v.resource.readHistory.appended v.now
      (v.resource.spec.repeats gap (v.resource.status.getD {})) v.tick.reports
  | .error _ => 0

variable [ResourceClient σ]

/-- A status comes of a look whose schedule cannot be read, and then its history is as before, or of
one that entered its reports into the history that it had read. -/
theorem tick_status {config : Config} {h : Hibernator} {now : Instant} {c c' : σ} {t : Tick}
    {status : Status} (hrun : config.tick h now c = .ok (t, c'))
    (hstatus : t.status = some status) :
    t.outcome = .scheduleError ∧ status.history = h.history
    ∨ ∃ gap, h.spec.schedule.gapAt now = .ok gap
      ∧ t.outcome = (if t.reports.all (·.impacted.isEmpty) then .idle else .transitioned)
      ∧ status.history = (h.readHistory.enteringAll now
          (h.spec.repeats gap (h.status.getD {})) t.reports).entries := by
  obtain ⟨floor, hfloor, hrun⟩ := Config.tick_eq_ok.1 hrun
  have hnanos := Config.nanos_lt_of_requeueFloor hfloor
  by_cases hstops : ∃ t', Stops h floor now t'
  · obtain ⟨t', hstops⟩ := hstops
    rw [tick_of_stops hnanos hstops] at hrun
    cases hrun
    cases hstops with
    | pausedUntil far => cases hstatus
    | paused near paused => cases hstatus
    | unreadable near unpaused unreadable =>
        cases hstatus
        exact .inl ⟨rfl, rfl⟩
    | tooSoon near unpaused readable lately => cases hstatus
  · obtain ⟨gap, hgap, htick⟩ := tick_of_not_stops (σ := σ) hnanos (not_exists.1 hstops)
    rw [htick] at hrun
    obtain ⟨-, houtcome, -, status', hstatus', -, hhistory⟩ := actAt_eq_ok hrun
    obtain rfl : status = status' := Option.some.inj (hstatus.symm.trans hstatus')
    exact .inr ⟨gap, hgap, houtcome, hhistory⟩

/-- What a look does to the history, if a status comes of it. -/
structure Visit.KeepsHistory (v : Visit σ) (status : Status) : Prop where
  wellFormed : IsWellFormed status.history
  bounded : v.tick.outcome ≠ .scheduleError →
    status.history.length ≤ v.resource.spec.historyLimit
  idle : v.tick.outcome = .idle → status.history
    = v.resource.history.drop (v.resource.history.length - v.resource.spec.historyLimit)
  survives : ∀ e ∈ v.resource.history,
    nextNumber status.history ≤ e.id.toInt + v.resource.spec.historyLimit →
      Survives v.resource.history v.now v.tick.reports status.history e

/-- **The step.**  A look at a resource whose history is in order, and no later than the look, keeps
the history; no revision of the new status is later than the look, and each new revision has a
number of its own. -/
theorem Visit.keepsHistory {config : Config} {v : Visit σ} {c' : σ} {status : Status}
    (hrun : config.tick v.resource v.now v.state = .ok (v.tick, c'))
    (hstatus : v.tick.status = some status) (hwell : IsWellFormed v.resource.history)
    (htime : ∀ e ∈ v.resource.history, v.now.before e.time = false)
    (hfits : nextNumber v.resource.history + v.appended ≤ maxSigned64) :
    v.KeepsHistory status ∧ (∀ e ∈ status.history, v.now.before e.time = false)
      ∧ nextNumber status.history ≤ nextNumber v.resource.history + v.appended := by
  rcases tick_status hrun hstatus with ⟨houtcome, hsame⟩ | ⟨gap, hgap, houtcome, hnew⟩
  · rw [hsame]
    refine ⟨⟨hsame ▸ hwell, fun hne => absurd houtcome hne, fun hidle => ?_, ?_⟩, htime, by omega⟩
    · rw [houtcome] at hidle
      cases hidle
    · rw [hsame]
      exact fun e he _ => ⟨[], fun hne => absurd rfl hne, by simp, he⟩
  · have hlimit := v.resource.spec.historyLimit_pos
    have hread : v.resource.readHistory
        = History.ofEntries v.resource.history v.resource.spec.historyLimit := rfl
    have happended : v.appended = v.resource.readHistory.appended v.now
        (v.resource.spec.repeats gap (v.resource.status.getD {})) v.tick.reports := by
      unfold appended
      rw [hgap]
    obtain ⟨hread', hnext⟩ := hwell.isOrderly_ofEntries htime hlimit
    rw [happended, hread] at hfits ⊢
    rw [hread] at hnew
    obtain ⟨hafter, hnumber⟩ := hread'.enteringAll _ _ (hnext ▸ hfits)
    rw [hnew]
    refine ⟨⟨hnew ▸ hafter.wellFormed, fun _ => ?_, fun hidle => ?_, fun e he hrecent => ?_⟩,
      hafter.notLater, by omega⟩
    · have hsize := hafter.size_le
      have hcapacity : (History.ofEntries v.resource.history
          v.resource.spec.historyLimit).capacity = v.resource.spec.historyLimit := by
        rw [hwell.ofEntries_eq hlimit]
      rw [History.capacity_enteringAll, hcapacity] at hsize
      rw [hnew]
      exact hsize
    · rw [houtcome] at hidle
      split at hidle
      · rename_i hall
        rw [hnew, History.enteringAll_of_quiet fun r hr =>
          List.isEmpty_iff.1 (List.all_eq_true.1 hall r hr), hwell.ofEntries_eq hlimit]
      · cases hidle
    · rw [hnew] at hrecent ⊢
      exact hwell.survives htime hlimit he _ _ hfits hrecent

/-- Whether its status is stored or lost, a look leaves a history in order, no later than itself,
with at most the numbers of its new revisions in addition. -/
theorem Visit.keepsStored {config : Config} {v : Visit σ} {c' : σ} {next : Option Status}
    (hrun : config.tick v.resource v.now v.state = .ok (v.tick, c'))
    (hwell : IsWellFormed v.resource.history)
    (htime : ∀ e ∈ v.resource.history, v.now.before e.time = false)
    (hfits : nextNumber v.resource.history + v.appended ≤ maxSigned64)
    (hnext : next = v.resource.status ∨ next = (v.tick.status <|> v.resource.status)) :
    IsWellFormed (next.getD {}).history
      ∧ (∀ e ∈ (next.getD {}).history, v.now.before e.time = false)
      ∧ nextNumber (next.getD {}).history ≤ nextNumber v.resource.history + v.appended := by
  have hlost : IsWellFormed (v.resource.status.getD {}).history
      ∧ (∀ e ∈ (v.resource.status.getD {}).history, v.now.before e.time = false)
      ∧ nextNumber (v.resource.status.getD {}).history
        ≤ nextNumber v.resource.history + v.appended :=
    ⟨hwell, htime, Int.le_add_of_nonneg_right (Int.natCast_nonneg _)⟩
  rcases hnext with rfl | rfl
  · exact hlost
  · cases hstatus : v.tick.status with
    | none => exact hlost
    | some status =>
        obtain ⟨hkeeps, hlater, hnumber⟩ := keepsHistory hrun hstatus hwell htime hfits
        exact ⟨hkeeps.wellFormed, hlater, hnumber⟩

/-! ### Runs -/

/-- Looks at a resource that follow one another from a status on: each finds the status that is
stored, and what comes of it is stored, or is lost. Everything else may change in between. -/
inductive Succession (config : Config) : Option Status → List (Visit σ) → Prop
  | nil (stored : Option Status) : Succession config stored []
  | cons {v : Visit σ} {next : Option Status} {rest : List (Visit σ)}
      (look : ∃ c, config.tick v.resource v.now v.state = .ok (v.tick, c))
      (kept : next = v.resource.status ∨ next = (v.tick.status <|> v.resource.status))
      (follow : Succession config next rest) : Succession config v.resource.status (v :: rest)

/-- **The run.**  From a history in order on that is no later than any of the looks, every look
keeps the history. -/
theorem Succession.keepsHistory {config : Config} {stored : Option Status}
    {visits : List (Visit σ)} (hrun : Succession config stored visits)
    (hwell : IsWellFormed (stored.getD {}).history)
    (htime : ∀ v ∈ visits, ∀ e ∈ (stored.getD {}).history, v.now.before e.time = false)
    (hclock : visits.Pairwise fun a b => b.now.before a.now = false)
    (hfits : nextNumber (stored.getD {}).history + (visits.map Visit.appended).sum ≤ maxSigned64) :
    ∀ v ∈ visits, ∀ status, v.tick.status = some status → v.KeepsHistory status := by
  induction hrun with
  | nil stored => exact fun v hv => (nomatch hv)
  | @cons v next rest look kept follow ih =>
      rw [List.map_cons, List.sum_cons, Int.natCast_add, ← Int.add_assoc] at hfits
      obtain ⟨c', hlook⟩ := look
      have htime' := htime v List.mem_cons_self
      have hfits' : nextNumber v.resource.history + v.appended ≤ maxSigned64 :=
        Int.le_trans (Int.le_add_of_nonneg_right (Int.natCast_nonneg _)) hfits
      obtain ⟨hwell', hlater, hnumber⟩ :=
        Visit.keepsStored hlook hwell htime' hfits' kept
      intro w hw status hstatus
      rcases List.mem_cons.1 hw with rfl | hw
      · exact (Visit.keepsHistory hlook hstatus hwell htime' hfits').1
      · refine ih hwell' (fun w hw e he => ?_) hclock.of_cons ?_ w hw status hstatus
        · exact Instant.before_trans (hlater e he) (List.rel_of_pairwise_cons hclock hw)
        · exact Int.le_trans (Int.add_le_add_right hnumber _) hfits

/-- **Histories stay in order.**  Take looks at a resource that follow one another, the first of
which finds no status: whatever is asked for, with whichever bounds on the history, in whichever
states of the cluster, and whichever of their statuses are lost. If the clock does not go back, and
the looks make no more than 2 ^ 63 - 1 revisions of their own, then for every status that comes of
one of them

* the revisions are numbered one after the other, none is earlier than one before it, and each was
  for some object;
* there are no more of them than the bound of that look, unless its schedule could not be read;
* if the look idled, they are those from before without the oldest beyond the bound;
* each revision from before whose number is among as many last ones as the bound is still there,
  unchanged, or it was the latest one and reports of its action were merged into it. -/
theorem histories_wellFormed (config : Config) (visits : List (Visit σ))
    (hrun : Succession config none visits)
    (hclock : visits.Pairwise fun a b => b.now.before a.now = false)
    (hfits : (visits.map Visit.appended).sum ≤ maxSigned64) :
    ∀ v ∈ visits, ∀ status, v.tick.status = some status → v.KeepsHistory status := by
  refine hrun.keepsHistory .nil (fun v _ e he => (nomatch he)) hclock ?_
  have hnone : nextNumber ((none : Option Status).getD {}).history = 0 := rfl
  rw [hnone]
  omega

end

/-! ### An instance -/

open scoped Time.ClockHistory

/-- The look that a turn of a resource takes. -/
def Turn.visit (x : Turn) (h : Hibernator) : Visit Cluster :=
  ⟨x.now, x.found h, x.before, x.tick⟩

/-- A night and a morning, with room for one revision. -/
def briefMorning : List (Spec × Instant × (Cluster → Cluster)) :=
  [({ nightly true with revisionLimit := some 1 }, ⟨0, 0⟩, id),
   ({ nightly false with revisionLimit := some 1 }, ⟨3600, 0⟩, id)]

/-- When a turn was, how many reports it has, and the numbers of the revisions that it leaves. -/
def Turn.summary (x : Turn) : Instant × Nat × Option (List Int64) :=
  (x.now, x.tick.reports.length, x.tick.status.map fun s => s.history.map (·.id))

/-- The night and the morning have one report each, and leave the revisions with the numbers 0 and
1. -/
theorem exists_briefMorning : ∃ night morning : Turn,
    Turns ⟨61, 0⟩ sleeper [night, morning]
      ∧ night.summary = (⟨0, 0⟩, 1, some [0]) ∧ morning.summary = (⟨3600, 0⟩, 1, some [1]) := by
  have hsummaries :
      (takeTurns ⟨61, 0⟩ briefMorning sleeper loneCluster).map (·.map Turn.summary)
        = some [(⟨0, 0⟩, 1, some [0]), (⟨3600, 0⟩, 1, some [1])] := by decide +kernel
  obtain ⟨turns, hrun, hturns⟩ := Option.map_eq_some_iff.1 hsummaries
  obtain ⟨night, rest, rfl, hnight, hrest⟩ := List.map_eq_cons_iff.1 hturns
  obtain ⟨morning, rest, rfl, hmorning, hrest⟩ := List.map_eq_cons_iff.1 hrest
  obtain rfl := List.map_eq_nil_iff.1 hrest
  exact ⟨night, morning, turns_of_takeTurns hrun, hnight, hmorning⟩

theorem Visit.appended_le (v : Visit Cluster) : v.appended ≤ v.tick.reports.length := by
  unfold appended
  split
  · exact History.appended_le_length _ _ _ _
  · exact Nat.zero_le _

/-- The status of the night gets lost once. The morning drops the revision of the night, for which
there is no room. -/
theorem histories_wellFormed_morning : ∃ night morning : Visit Cluster, ∃ before after : Status,
    Succession {} none [night, night, morning]
    ∧ ([night, night, morning].Pairwise fun a b => b.now.before a.now = false)
    ∧ ([night, night, morning].map Visit.appended).sum ≤ maxSigned64
    ∧ night.tick.status = some before ∧ before.history.map (·.id) = [0]
    ∧ morning.tick.status = some after ∧ after.history.map (·.id) = [1]
    ∧ night.KeepsHistory before ∧ morning.KeepsHistory after := by
  obtain ⟨night, morning, hturns, hsummary, hsummary'⟩ := exists_briefMorning
  unfold Turn.summary at hsummary hsummary'
  simp only [Prod.mk.injEq, Option.map_eq_some_iff] at hsummary hsummary'
  obtain ⟨hnight, hone, before, hbefore, hids⟩ := hsummary
  obtain ⟨hmorning, hone', after, hafter, hids'⟩ := hsummary'
  cases hturns with
  | cons hlook hturns =>
  cases hturns with
  | cons hlook' hturns' =>
  have hvisit := Config.tick_eq_ok.2 ⟨_, Config.requeueFloor_default, hlook⟩
  have hlast : Succession {} (night.tick.status <|> sleeper.status)
      [morning.visit (night.resource sleeper)] :=
    Succession.cons (v := morning.visit (night.resource sleeper))
      ⟨_, Config.tick_eq_ok.2 ⟨_, Config.requeueFloor_default, hlook'⟩⟩ (.inl rfl) (.nil _)
  have hrun : Succession {} none [night.visit sleeper, night.visit sleeper,
      morning.visit (night.resource sleeper)] :=
    Succession.cons (v := night.visit sleeper) ⟨_, hvisit⟩ (.inl rfl)
      (Succession.cons (v := night.visit sleeper) ⟨_, hvisit⟩ (.inr rfl) hlast)
  have hclock : [night.visit sleeper, night.visit sleeper,
      morning.visit (night.resource sleeper)].Pairwise fun a b => b.now.before a.now = false := by
    simp [Turn.visit, Instant.before, hnight, hmorning]
  have hfew : (night.visit sleeper).appended ≤ 1 := hone ▸ (night.visit sleeper).appended_le
  have hfew' : (morning.visit (night.resource sleeper)).appended ≤ 1 :=
    hone' ▸ (morning.visit (night.resource sleeper)).appended_le
  have hfits : ([night.visit sleeper, night.visit sleeper,
      morning.visit (night.resource sleeper)].map Visit.appended).sum ≤ maxSigned64 := by
    simp only [List.map_cons, List.map_nil, List.sum_cons, List.sum_nil, maxSigned64]
    omega
  have hkeeps := histories_wellFormed {} _ hrun hclock hfits
  exact ⟨night.visit sleeper, morning.visit (night.resource sleeper), before, after, hrun, hclock,
    hfits, hbefore, hids, hafter, hids', hkeeps _ (by simp) before hbefore,
    hkeeps _ (by simp) after hafter⟩

end Slumber
