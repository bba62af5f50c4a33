import Slumber.Proofs.Config
import Slumber.Proofs.Controller.Steps
import Slumber.Time.ClockHistory

/-!
# Attempts that fail and are tried again

A controller attempts to reconcile resources, in any order and at any instants, on a cluster that
may be another one each time. An attempt that fails gives the delay until the next one on its
resource. The failures of a resource are forgotten when it is reconciled, but not when it is found
being deleted, which is no failure either. So a resource that is created again under its name goes
on with the delays of the deleted one.

* `Controller.attempts` — attempts that follow one another, and how each ended;
* `failuresSince` — the failures of a resource since an end of some kind;
* `Controller.reconcile_backoff` — what one call does to the delays;
* `Controller.attempt_backoff`, `Controller.attempts_backoff` — the step and the run;
* `retry_delay` — the delay of a failure;
* `retry_delay_outlives_resource` — a delay that a deleted resource has left.
-/

namespace Slumber

/-- An attempt to reconcile a resource as it was observed, with what answers it. -/
structure Attempt (σ : Type) where
  resource : Hibernator
  write : StatusWriter σ
  now : Instant
  cluster : σ

/-- How an attempt ended. -/
inductive Verdict where
  /-- The resource was reconciled. -/
  | reconciled
  /-- The resource was being deleted, so nothing was left to do. -/
  | forgotten
  /-- The status could not be stored; the delay until the next attempt, unless it overflows. -/
  | failed (retryAfter : Except Overflow Duration)
  /-- The look overflowed, and no result came. -/
  | stopped
deriving DecidableEq, Repr

namespace Verdict

def isReconciled : Verdict → Bool
  | .reconciled => true
  | _ => false

/-- The call of the attempt had a result that is no failure. -/
def isOk : Verdict → Bool
  | .reconciled | .forgotten => true
  | _ => false

theorem isOk_of_isReconciled {v : Verdict} (h : v.isReconciled = true) : v.isOk = true := by
  cases v with
  | reconciled => rfl
  | _ => cases h

def isFailed : Verdict → Bool
  | .failed _ => true
  | _ => false

/-- The look overflowed, or the delay behind a failure. -/
def isOverflow : Verdict → Bool
  | .stopped | .failed (.error _) => true
  | _ => false

/-- What an attempt on the resource of a key means for the delays. -/
def event? (key : String) : Verdict → Option BackoffEvent
  | .reconciled => some (.success key)
  | .failed _ => some (.failure key)
  | _ => none

end Verdict

/-- The keys of resources, and how the attempts on them ended. -/
abbrev Trace := List (String × Verdict)

/-- The number of failures of a key since the last attempt on it that ended in some way, behind one
more attempt. -/
def countSince (ends : Verdict → Bool) (key : String) (n : Nat) (e : String × Verdict) : Nat :=
  if e.1 = key then
    if ends e.2 then 0 else if e.2.isFailed then n + 1 else n
  else n

/-- The number of failures of a key since the last attempt on it that ended in some way. -/
def failuresSince (ends : Verdict → Bool) (key : String) (trace : Trace) : Nat :=
  trace.foldl (countSince ends key) 0

/-- The failures and the successes among attempts. -/
def Trace.events (trace : Trace) : List BackoffEvent :=
  trace.filterMap fun e => e.2.event? e.1

/-! ### Counting failures -/

theorem Trace.events_cons (key : String) (v : Verdict) (trace : Trace) :
    Trace.events ((key, v) :: trace) = (v.event? key).toList ++ trace.events := by
  cases v <;> rfl

theorem countSince_isReconciled (key other : String) (n : Nat) (v : Verdict) :
    countSince Verdict.isReconciled key n (other, v)
      = (v.event? other).toList.foldl (BackoffEvent.count key) n := by
  cases v with
  | reconciled => rfl
  | failed d => rfl
  | forgotten => exact ite_self n
  | stopped => exact ite_self n

/-- What the delays count are the failures since the resource was reconciled. -/
theorem failuresInARow_events (key : String) (trace : Trace) :
    failuresInARow key trace.events = failuresSince Verdict.isReconciled key trace := by
  have hfold : ∀ n, trace.events.foldl (BackoffEvent.count key) n
      = trace.foldl (countSince Verdict.isReconciled key) n := by
    induction trace with
    | nil => exact fun n => rfl
    | cons e trace ih =>
        intro n
        rw [Trace.events_cons, List.foldl_append, ih, List.foldl_cons, countSince_isReconciled]
  exact hfold 0

/-- The more ends start a count again, the less is counted. -/
theorem failuresSince_anti {ends more : Verdict → Bool} (h : ∀ v, ends v = true → more v = true)
    (key : String) (trace : Trace) :
    failuresSince more key trace ≤ failuresSince ends key trace := by
  have hstep : ∀ {m n : Nat} (e : String × Verdict), m ≤ n →
      countSince more key m e ≤ countSince ends key n e := by
    intro m n e hmn
    unfold countSince
    by_cases hkey : e.1 = key
    · rw [if_pos hkey, if_pos hkey]
      by_cases hmore : more e.2 = true
      · rw [if_pos hmore]
        exact Nat.zero_le _
      · rw [if_neg hmore, if_neg fun hends => hmore (h e.2 hends)]
        split <;> omega
    · rw [if_neg hkey, if_neg hkey]
      exact hmn
  have hfold : ∀ {m n : Nat}, m ≤ n →
      trace.foldl (countSince more key) m ≤ trace.foldl (countSince ends key) n := by
    induction trace with
    | nil => exact fun hmn => hmn
    | cons e trace ih => exact fun hmn => ih (hstep e hmn)
  exact hfold (Nat.le_refl 0)

theorem failuresSince_congr {ends others : Verdict → Bool} {key : String} {trace : Trace}
    (h : ∀ v, (key, v) ∈ trace → ends v = others v) :
    failuresSince ends key trace = failuresSince others key trace := by
  refine List.foldl_ext _ _ _ fun n e he => ?_
  unfold countSince
  split
  · rename_i hkey
    rw [h e.2 (hkey ▸ he)]
  · rfl

/-- Where a resource was never found being deleted, it was reconciled whenever nothing failed. -/
theorem failuresSince_isOk {key : String} {trace : Trace} (h : (key, .forgotten) ∉ trace) :
    failuresSince Verdict.isOk key trace = failuresSince Verdict.isReconciled key trace := by
  refine failuresSince_congr fun v hv => ?_
  cases v with
  | forgotten => exact absurd hv h
  | _ => rfl

/-! ### One attempt -/

namespace Controller

/-- The delay that a failure gives, and the controller behind it. -/
theorem handleError_cases (k : Controller) (h : Hibernator) :
    (∃ stop, k.backoff.recordError h.key = .error stop ∧ k.handleError h = .error stop)
    ∨ ∃ given backoff, k.backoff.recordError h.key = .ok (given, backoff)
      ∧ k.handleError h = .ok (⟨given.1.toNat, 0⟩,
          { k with backoff, metrics := k.metrics.recordReconcile "error" }) := by
  unfold handleError
  cases hrecord : k.backoff.recordError h.key with
  | error stop => exact .inl ⟨stop, rfl, rfl⟩
  | ok p => exact .inr ⟨p.1, p.2, rfl, rfl⟩

variable {σ : Type} [ResourceClient σ] [ZoneDatabase] {k k' : Controller} {x : Attempt σ}

/-- One attempt: a call, and if it fails the handling of the failure. -/
def attempt (k : Controller) (x : Attempt σ) : Verdict × Controller :=
  match k.reconcile x.write x.resource x.now x.cluster with
  | .error _ => (.stopped, k)
  | .ok ((.error _, k'), _) =>
      match k'.handleError x.resource with
      | .error stop => (.failed (.error stop), k')
      | .ok (retryAfter, k'') => (.failed (.ok retryAfter), k'')
  | .ok ((.ok _, k'), _) => (if x.resource.isDeleting then .forgotten else .reconciled, k')

/-- Attempts that follow one another. -/
def attempts (k : Controller) : List (Attempt σ) → Trace × Controller
  | [] => ([], k)
  | x :: xs =>
      let (v, k') := k.attempt x
      let (trace, k'') := k'.attempts xs
      ((x.resource.key, v) :: trace, k'')

/-- What a call does to the delays: it forgets the failures of its resource, if that is not being
deleted and the call does not fail; else it leaves them alone. -/
theorem reconcile_backoff {write : StatusWriter σ} {h : Hibernator} {now : Instant} {c c' : σ}
    {result : Except StatusFault Reconciled}
    (hrun : k.reconcile write h now c = .ok ((result, k'), c')) :
    h.isDeleting = true ∧ result = .ok {} ∧ k'.backoff = k.backoff
    ∨ (∃ fault, result = .error fault) ∧ k'.backoff = k.backoff
    ∨ h.isDeleting = false ∧ (∃ r, result = .ok r) ∧ k'.backoff = k.backoff.reset h.key := by
  unfold reconcile at hrun
  cases hdeleting : h.isDeleting with
  | true =>
      rw [hdeleting] at hrun
      cases hrun
      exact .inl ⟨rfl, rfl, rfl⟩
  | false =>
      rw [hdeleting] at hrun
      obtain ⟨⟨t, k₁⟩, c₁, hlook, hrun⟩ := Run.bind_ok.1 hrun
      obtain ⟨t', c₂, -, hcount⟩ := Run.bind_ok.1 hlook
      cases hcount
      dsimp only at hrun
      cases hchanged : t.status.filter fun s => h.status ≠ some s with
      | none =>
          rw [hchanged] at hrun
          cases hrun
          exact .inr (.inr ⟨rfl, ⟨_, rfl⟩, rfl⟩)
      | some s =>
          rw [hchanged] at hrun
          obtain ⟨stored, c₃, -, hrun⟩ := Run.bind_ok.1 hrun
          cases stored with
          | error fault =>
              cases hrun
              exact .inr (.inl ⟨⟨fault, rfl⟩, rfl⟩)
          | ok =>
              cases hrun
              exact .inr (.inr ⟨rfl, ⟨_, rfl⟩, rfl⟩)

/-- **Step.**  An attempt that fails gives the delay of one more failure; and each attempt counts
for the delays as its end says. -/
theorem attempt_backoff (k : Controller) (x : Attempt σ) :
    (∀ d, (k.attempt x).1 = .failed d →
      d = (k.backoff.recordError x.resource.key).map fun r => ⟨r.1.1.toNat, 0⟩)
    ∧ (k.attempt x).2.backoff
      = k.backoff.after ((k.attempt x).1.event? x.resource.key).toList := by
  unfold attempt
  cases hrun : k.reconcile x.write x.resource x.now x.cluster with
  | error stop => exact ⟨fun d hd => (by cases hd), rfl⟩
  | ok p =>
      obtain ⟨⟨result, k'⟩, c'⟩ := p
      rcases reconcile_backoff hrun with ⟨hdeleting, rfl, hsame⟩ | ⟨⟨fault, rfl⟩, hsame⟩
        | ⟨hstays, ⟨r, rfl⟩, hreset⟩
      · dsimp only
        rw [hdeleting]
        exact ⟨fun d hd => (by cases hd), hsame⟩
      · dsimp only
        rw [← hsame]
        rcases k'.handleError_cases x.resource with ⟨stop, hrecord, hhandle⟩
          | ⟨given, backoff, hrecord, hhandle⟩
        · rw [hhandle, hrecord]
          exact ⟨fun d hd => (by cases hd; rfl),
            (BackoffTracker.behind_of_overflow hrecord).symm⟩
        · rw [hhandle, hrecord]
          exact ⟨fun d hd => (by cases hd; rfl),
            (BackoffTracker.behind_of_recordError hrecord).symm⟩
      · dsimp only
        rw [hstays]
        exact ⟨fun d hd => (by cases hd), hreset⟩

/-- **Run.**  The delays behind attempts are those behind their failures and successes. -/
theorem attempts_backoff (k : Controller) (xs : List (Attempt σ)) :
    (k.attempts xs).2.backoff = k.backoff.after (k.attempts xs).1.events := by
  induction xs generalizing k with
  | nil => rfl
  | cons x xs ih =>
      have hstep := (k.attempt_backoff x).2
      have hrest := ih (k.attempt x).2
      show ((k.attempt x).2.attempts xs).2.backoff
        = k.backoff.after (Trace.events ((x.resource.key, (k.attempt x).1)
            :: ((k.attempt x).2.attempts xs).1))
      rw [hrest, hstep, Trace.events_cons]
      exact (List.foldl_append ..).symm

end Controller

/-! ### The main theorem -/

section

variable {σ : Type} [ResourceClient σ] [ZoneDatabase] {config : Config}
  {environment : String → Option String} {earlier : List (Attempt σ)} {x : Attempt σ}
  {trace : Trace} {k : Controller} {d : Except Overflow Duration}

/-- The delay behind the `n`-th failure in a row. -/
def Config.retryAfter (config : Config) (n : Nat) : Duration :=
  ⟨60 * delayMinutes config.backoffMinMinutes.toNat config.backoffMaxMinutes.toNat n, 0⟩

/-- An attempt that fails gives the delay that `Config.delayBehind` speaks of. -/
theorem attempt_delayBehind (hearlier : (Controller.ofConfig config).attempts earlier = (trace, k))
    (hfails : (k.attempt x).1 = .failed d) :
    d = (config.delayBehind trace.events x.resource.key).map fun seconds => ⟨seconds, 0⟩ := by
  have hrun := (Controller.ofConfig config).attempts_backoff earlier
  rw [hearlier] at hrun
  rw [(k.attempt_backoff x).1 d hfails, hrun]
  unfold Config.delayBehind
  cases ((Controller.ofConfig config).backoff.after trace.events).recordError x.resource.key <;> rfl

/-- **Delays of failures.**  For all settings that are accepted and whose greatest delay fits,
behind any attempts on any resources, an attempt that fails gives the delay of the number of
failures of its resource since that was last reconciled, this one included; only where that number
does not fit, the delay overflows. So a delay is never shorter than that of the failures since the
last call that did not fail; and it is that delay if the resource has not been found being
deleted. -/
theorem retry_delay (haccepted : Config.ofEnvironment environment = .ok config)
    (hfits : 60 * config.backoffMaxMinutes.toNat < 2 ^ 64)
    (hearlier : (Controller.ofConfig config).attempts earlier = (trace, k))
    (hfails : (k.attempt x).1 = .failed d) :
    (d = if failuresSince Verdict.isReconciled x.resource.key trace + 1 < 2 ^ 32 then
        .ok (config.retryAfter (failuresSince Verdict.isReconciled x.resource.key trace + 1))
      else .error .tooLarge)
    ∧ ∀ delay, d = .ok delay →
      (config.retryAfter (failuresSince Verdict.isOk x.resource.key trace + 1)).seconds
        ≤ delay.seconds
      ∧ ((x.resource.key, .forgotten) ∉ trace →
        delay = config.retryAfter (failuresSince Verdict.isOk x.resource.key trace + 1)) := by
  have hdelay : d = if failuresSince Verdict.isReconciled x.resource.key trace + 1 < 2 ^ 32 then
      .ok (config.retryAfter (failuresSince Verdict.isReconciled x.resource.key trace + 1))
      else .error .tooLarge := by
    rw [attempt_delayBehind hearlier hfails, Config.delayBehind_eq haccepted, failuresInARow_events]
    simp only [fits_iff_of_greatest hfits]
    split <;> rfl
  refine ⟨hdelay, fun delay hgiven => ?_⟩
  obtain rfl : delay
      = config.retryAfter (failuresSince Verdict.isReconciled x.resource.key trace + 1) := by
    rw [hgiven] at hdelay
    split at hdelay
    · exact Except.ok.inj hdelay
    · cases hdelay
  have hfewer : failuresSince Verdict.isOk x.resource.key trace
      ≤ failuresSince Verdict.isReconciled x.resource.key trace :=
    failuresSince_anti (fun v hv => Verdict.isOk_of_isReconciled hv) _ _
  refine ⟨?_, fun hnever => by rw [failuresSince_isOk hnever]⟩
  exact Nat.mul_le_mul_left 60 (delayMinutes_mono _ _ (Nat.succ_le_succ hfewer))

end

/-! ### Instances -/

open scoped Time.ClockHistory

/-- A resource that is always to sleep. -/
def nightlyResource : Hibernator where
  namespaceName := "prod"
  name := "nightly"
  spec := { forceActive := true }

/-- An attempt on a resource whose status is not stored. -/
def refusedAttempt (h : Hibernator) : Attempt Cluster where
  resource := h
  write := .answering (some ⟨h.name, .other "ServiceError: conflict"⟩)
  now := ⟨1704067200, 0⟩
  cluster := .standard

/-- An attempt on a resource whose status is stored. -/
def storedAttempt (h : Hibernator) : Attempt Cluster :=
  { refusedAttempt h with write := .answering none }

/-- A failure, a success and two more failures, with another resource failing in between. -/
def earlierAttempts : List (Attempt Cluster) :=
  [refusedAttempt nightlyResource, storedAttempt nightlyResource, refusedAttempt nightlyResource,
    refusedAttempt { nightlyResource with name := "daily" }, refusedAttempt nightlyResource]

/-- The third failure since the last success waits for two minutes. -/
theorem retry_delay_third : ∃ trace k,
    Config.ofEnvironment (fun _ => none) = .ok ({} : Config)
    ∧ 60 * ({} : Config).backoffMaxMinutes.toNat < 2 ^ 64
    ∧ (Controller.ofConfig {}).attempts earlierAttempts = (trace, k)
    ∧ (k.attempt (refusedAttempt nightlyResource)).1 = .failed (.ok ⟨120, 0⟩)
    ∧ Config.retryAfter {} (failuresSince Verdict.isOk "prod/nightly" trace + 1) = ⟨120, 0⟩ := by
  have haccepted : Config.ofEnvironment (fun _ => none) = .ok ({} : Config) := by decide +kernel
  have hfits : 60 * ({} : Config).backoffMaxMinutes.toNat < 2 ^ 64 := by decide
  have hfails : (((Controller.ofConfig {}).attempts earlierAttempts).2.attempt
      (refusedAttempt nightlyResource)).1 = .failed (.ok ⟨120, 0⟩) := by decide +kernel
  have hnever : (("prod/nightly" : String), Verdict.forgotten)
      ∉ ((Controller.ofConfig {}).attempts earlierAttempts).1 := by decide +kernel
  obtain ⟨-, hdelay⟩ := retry_delay haccepted hfits rfl hfails
  exact ⟨_, _, haccepted, hfits, rfl, hfails, ((hdelay _ rfl).2 hnever).symm⟩

/-- **Delays that outlive their resource.**  Three times a resource fails. Then it is found being
deleted, and that call does not fail. The next failure of a resource of its name waits for three
minutes, as the fourth one in a row would. -/
theorem retry_delay_outlives_resource : ∃ trace k,
    (Controller.ofConfig {}).attempts [refusedAttempt nightlyResource,
      refusedAttempt nightlyResource, refusedAttempt nightlyResource,
      storedAttempt { nightlyResource with isDeleting := true }] = (trace, k)
    ∧ failuresSince Verdict.isOk "prod/nightly" trace = 0
    ∧ (k.attempt (refusedAttempt nightlyResource)).1 = .failed (.ok ⟨180, 0⟩)
    ∧ Config.retryAfter {} 1 = ⟨60, 0⟩ :=
  ⟨_, _, rfl, by decide +kernel, by decide +kernel, by decide⟩

end Slumber
