import Slumber.Controller.Reconcile
import Slumber.Proofs.Cluster.Activities
import Slumber.Proofs.Status.Retention

/-!
# What one look does

A look that comes to an end either ran nothing, and then it left the cluster and the recorded
history as they were, or it executed the spec once and entered all reports into the history that it
had read. A call of the controller takes one look and then stores what came of it.

* `Hibernator.readHistory` — the history that a look reads;
* `Acts` — what a look does that acts;
* `tick_cases`, `reconcile_cases` — the cases of a look and of a call;
* `Turn`, `Turns` — looks that follow one another, the status of each of which is stored.
-/

namespace Slumber

variable {σ : Type} [ResourceClient σ] [ZoneDatabase] {h : Hibernator} {floor : Duration}
  {now : Instant} {c c' : σ} {t : Tick}

/-- The history that a look at a resource reads. -/
def Hibernator.readHistory (h : Hibernator) : History :=
  History.ofEntries (h.status.getD {}).history h.spec.historyLimit

/-- A look in a gap of the schedule executes the spec, and enters the reports into the history. -/
structure Acts (h : Hibernator) (now : Instant) (gap : Gap) (c : σ) (t : Tick) (c' : σ) :
    Prop where
  gap_eq : h.spec.schedule.gapAt now = .ok gap
  executed : execute now h.spec (h.spec.isActive gap) gap.range h.readHistory c
    = .ok (t.reports, c')
  entered : ∃ status resync, t.status = some status
    ∧ status.history = (h.readHistory.enteringAll now resync t.reports).entries

/-- A look that runs nothing. -/
structure Rests (h : Hibernator) (c : σ) (t : Tick) (c' : σ) : Prop where
  cluster_eq : c' = c
  reports_eq : t.reports = []
  history_eq : ∀ status, t.status = some status →
    status.history = (h.status.getD {}).history

theorem tick_of_unpaused (hpause : h.spec.pause = false) (huntil : h.spec.pauseUntil = none) :
    (tick h floor now : Run σ Tick) = tickUnpaused h floor [] now := by
  unfold tick pauseAt
  rw [huntil, hpause]
  rfl

theorem tickUnpaused_cases {notes : List String}
    (hrun : tickUnpaused h floor notes now c = .ok (t, c')) :
    Rests h c t c' ∨ ∃ gap, Acts h now gap c t c' := by
  unfold tickUnpaused at hrun
  cases hgap : h.spec.schedule.gapAt now with
  | error fault =>
      rw [hgap] at hrun
      cases hrun
      exact .inl ⟨rfl, rfl, fun status hstatus => by rw [← Option.some.inj hstatus]⟩
  | ok gap =>
      rw [hgap] at hrun
      dsimp only at hrun
      split at hrun
      · cases hrun
        exact .inl ⟨rfl, rfl, fun status hstatus => by cases hstatus⟩
      · unfold actAt at hrun
        obtain ⟨reports, c₁, hexecute, hrun⟩ := Run.bind_ok.1 hrun
        cases hrun
        exact .inr ⟨gap, hgap, hexecute, _, _, rfl, rfl⟩

/-- **The cases of a look.** -/
theorem tick_cases (hrun : tick h floor now c = .ok (t, c')) :
    Rests h c t c' ∨ ∃ gap, Acts h now gap c t c' := by
  have hpaused : ∀ {delay : Option Duration},
      (pure { outcome := .paused, requeueAfter := delay } : Run σ Tick) c = .ok (t, c') →
        Rests h c t c' := by
    intro delay hpure
    cases hpure
    exact ⟨rfl, rfl, fun status hstatus => by cases hstatus⟩
  -- A pause until an instant that has passed, or that cannot be read, leaves the other pause.
  have hbehind : ∀ {notes : List String}, (if h.spec.pause then pure { outcome := .paused }
      else tickUnpaused h floor notes now : Run σ Tick) c = .ok (t, c') →
        Rests h c t c' ∨ ∃ gap, Acts h now gap c t c' := by
    intro notes hrest
    split at hrest
    · exact .inl (hpaused hrest)
    · exact tickUnpaused_cases hrest
  unfold tick at hrun
  cases hpause : pauseAt h.spec floor now with
  | error fault =>
      rw [hpause] at hrun
      exact hbehind hrun
  | ok remaining =>
      rw [hpause] at hrun
      cases remaining with
      | none => exact hbehind hrun
      | some d => exact .inl (hpaused hrun)

/-! ### Looks under settings -/

section

variable {config : Config}

/-- A look under some settings is one with their shortest delay. -/
theorem Config.tick_of_floor (hfloor : config.requeueFloor = .ok floor) :
    (config.tick h now : Run σ Tick) = Slumber.tick h floor now := by
  unfold Config.tick
  rw [hfloor]
  rfl

/-- Without a shortest delay there is no look. -/
theorem Config.tick_of_overflow {stop : Overflow} (hfloor : config.requeueFloor = .error stop) :
    (config.tick h now : Run σ Tick) c = .error stop := by
  unfold Config.tick
  rw [hfloor]
  rfl

theorem Config.tick_eq_ok : config.tick h now c = .ok (t, c')
    ↔ ∃ floor, config.requeueFloor = .ok floor ∧ Slumber.tick h floor now c = .ok (t, c') := by
  cases hfloor : config.requeueFloor with
  | error stop => simp [Config.tick_of_overflow hfloor]
  | ok floor => simp [Config.tick_of_floor hfloor]

end

/-! ### Calls of the controller -/

/-- A server that stores statuses, or refuses to, and leaves the cluster alone. -/
def StatusWriter.answering (fault : Option StatusFault) : StatusWriter σ := fun _ _ =>
  pure (fault.elim (.ok ()) .error)

/-- **The cases of a call.**  A resource that is being deleted is left alone. For another one the
call takes a look; if it succeeds, then the status that came of the look was written unless it was
the one that the resource had. -/
theorem Controller.reconcile_cases {k k' : Controller} {fault : Option StatusFault}
    {result : Except StatusFault Reconciled}
    (hrun : k.reconcile (.answering fault) h now c = .ok ((result, k'), c')) :
    h.isDeleting = true ∧ c' = c ∧ result = .ok {}
    ∨ ∃ t, k.config.tick h now c = .ok (t, c')
      ∧ ∀ r, result = .ok r → r.written = t.status.filter fun s => h.status ≠ some s := by
  unfold reconcile at hrun
  split at hrun
  · rename_i hdeleting
    cases hrun
    exact .inl ⟨hdeleting, rfl, rfl⟩
  · refine .inr ?_
    obtain ⟨⟨t, k₁⟩, c₁, hlook, hrun⟩ := Run.bind_ok.1 hrun
    obtain ⟨t', c₂, htick, hpure⟩ := Run.bind_ok.1 hlook
    cases hpure
    refine ⟨t, ?_⟩
    dsimp only at hrun
    cases hchanged : t.status.filter fun s => h.status ≠ some s with
    | none =>
        rw [hchanged] at hrun
        cases hrun
        exact ⟨htick, fun r hr => by rw [← Except.ok.inj hr]⟩
    | some s =>
        rw [hchanged] at hrun
        cases fault with
        | none =>
            cases hrun
            exact ⟨htick, fun r hr => by rw [← Except.ok.inj hr]⟩
        | some f =>
            cases hrun
            exact ⟨htick, fun r hr => by cases hr⟩

/-! ### Looks that follow one another -/

/-- A look as it went: what was asked for by then, at which instant, the cluster that the look
found, what came of it, and the cluster that it left. -/
structure Turn where
  spec : Spec
  now : Instant
  before : Cluster
  tick : Tick
  after : Cluster

namespace Turn

/-- The resource as the look finds it. -/
def found (x : Turn) (h : Hibernator) : Hibernator :=
  { h with spec := x.spec }

/-- The resource behind the look, with the status that came of it. A look that leaves the status
alone gives none. -/
def resource (x : Turn) (h : Hibernator) : Hibernator :=
  { h with spec := x.spec, status := x.tick.status <|> h.status }

end Turn

/-- The revisions that a resource has recorded. -/
def Hibernator.history (h : Hibernator) : List Revision :=
  (h.status.getD {}).history

/-- Behind a look the resource records what it recorded before, or the reports of the look entered
into the history that the look read. -/
theorem Turn.history_resource {h : Hibernator} {x : Turn}
    (hlook : Slumber.tick (x.found h) floor x.now x.before = .ok (x.tick, x.after)) :
    (x.resource h).history = h.history
      ∨ ∃ resync, (x.resource h).history
        = ((x.found h).readHistory.enteringAll x.now resync x.tick.reports).entries := by
  have hstored : (x.resource h).history = ((x.tick.status <|> h.status).getD {}).history := rfl
  cases hstatus : x.tick.status with
  | none =>
      left
      rw [hstored, hstatus]
      rfl
  | some status =>
      have hnew : (x.resource h).history = status.history := by
        rw [hstored, hstatus]
        rfl
      rcases tick_cases hlook with hrests | ⟨gap, hacts⟩
      · exact .inl (hnew.trans (hrests.history_eq status hstatus))
      · obtain ⟨status', resync, hstatus', hhistory⟩ := hacts.entered
        obtain rfl : status = status' := Option.some.inj (hstatus.symm.trans hstatus')
        exact .inr ⟨resync, hnew.trans hhistory⟩

/-- Looks at a resource, one after the other, whose statuses are all stored. In between, others may
change the cluster and what is asked for. -/
inductive Turns (floor : Duration) : Hibernator → List Turn → Prop
  | nil (h : Hibernator) : Turns floor h []
  | cons {h : Hibernator} {x : Turn} {rest : List Turn}
      (look : Slumber.tick (x.found h) floor x.now x.before = .ok (x.tick, x.after))
      (next : Turns floor (x.resource h) rest) : Turns floor h (x :: rest)

/-- The resource behind some looks. -/
def turnedBy (h : Hibernator) (turns : List Turn) : Hibernator :=
  turns.foldl (fun h x => x.resource h) h

/-- The history that a look reads, if the recorded revisions are in order. -/
def Hibernator.historyInOrder (h : Hibernator) : History :=
  let entries := (h.status.getD {}).history
  let capacity := max h.spec.historyLimit 1
  ⟨entries.drop (entries.length - capacity), capacity⟩

/-- A look in a gap of the schedule that no pause and no recent action stops, at a resource whose
revisions are in order. -/
structure IsDue (h : Hibernator) (floor : Duration) (now : Instant) : Prop where
  unpaused : h.spec.pause = false
  notUntil : h.spec.pauseUntil = none
  inOrder : InOrder (h.status.getD {}).history
  notTooSoon : isTooSoon h.historyInOrder floor now = false

instance (h : Hibernator) (floor : Duration) (now : Instant) : Decidable (IsDue h floor now) :=
  decidable_of_iff (h.spec.pause = false ∧ h.spec.pauseUntil = none
      ∧ InOrder (h.status.getD {}).history ∧ isTooSoon h.historyInOrder floor now = false)
    ⟨fun ⟨h₁, h₂, h₃, h₄⟩ => ⟨h₁, h₂, h₃, h₄⟩, fun h => ⟨h.1, h.2, h.3, h.4⟩⟩

theorem tick_of_isDue {gap : Gap} (hdue : IsDue h floor now)
    (hgap : h.spec.schedule.gapAt now = .ok gap) :
    (tick h floor now : Run σ Tick) = actAt h.spec (h.status.getD {}) h.historyInOrder gap []
      (requeueDelay gap.seconds h.spec.resyncInterval.toInt floor) now := by
  have hread : History.ofEntries (h.status.getD {}).history h.spec.historyLimit
      = h.historyInOrder := ofEntries_of_inOrder hdue.inOrder _
  rw [tick_of_unpaused hdue.unpaused hdue.notUntil]
  unfold tickUnpaused
  dsimp only
  rw [hgap]
  dsimp only
  rw [hread, hdue.notTooSoon]
  rfl

/-- Looks with the given specs at the given instants, each of which is due and finds the cluster as
others make it of the one before. -/
def takeTurns (floor : Duration) : List (Spec × Instant × (Cluster → Cluster)) → Hibernator →
    Cluster → Option (List Turn)
  | [], _, _ => some []
  | (spec, now, others) :: rest, h, c =>
    let found := { h with spec }
    match spec.schedule.gapAt now with
    | .error _ => none
    | .ok gap =>
      if IsDue found floor now then
        match actAt spec (found.status.getD {}) found.historyInOrder gap []
            (requeueDelay gap.seconds spec.resyncInterval.toInt floor) now (others c) with
        | .error _ => none
        | .ok (tick, after) =>
          let x : Turn := ⟨spec, now, others c, tick, after⟩
          (takeTurns floor rest (x.resource h) after).map (x :: ·)
      else none

/-- The first of some turns that were taken. -/
theorem takeTurns_cons {spec : Spec} {others : Cluster → Cluster}
    {plan : List (Spec × Instant × (Cluster → Cluster))} {c : Cluster} {turns : List Turn}
    (hrun : takeTurns floor ((spec, now, others) :: plan) h c = some turns) :
    ∃ x rest, turns = x :: rest ∧ x.before = others c
      ∧ Slumber.tick (x.found h) floor x.now x.before = .ok (x.tick, x.after)
      ∧ takeTurns floor plan (x.resource h) x.after = some rest := by
  unfold takeTurns at hrun
  dsimp only at hrun
  split at hrun
  · cases hrun
  · rename_i gap hgap
    split at hrun
    · rename_i hdue
      split at hrun
      · cases hrun
      · rename_i tick after hacts
        obtain ⟨rest, hrest, rfl⟩ := Option.map_eq_some_iff.1 hrun
        refine ⟨_, rest, rfl, rfl, ?_, hrest⟩
        show Slumber.tick { h with spec } floor now (others c) = .ok (tick, after)
        rw [tick_of_isDue hdue hgap]
        exact hacts
    · cases hrun

theorem turns_of_takeTurns {plan : List (Spec × Instant × (Cluster → Cluster))} {c : Cluster}
    {turns : List Turn} (hrun : takeTurns floor plan h c = some turns) : Turns floor h turns := by
  induction plan generalizing h c turns with
  | nil =>
      cases hrun
      exact .nil h
  | cons step plan ih =>
      obtain ⟨x, rest, rfl, -, hlook, hrest⟩ := takeTurns_cons hrun
      exact .cons hlook (ih hrest)

end Slumber
