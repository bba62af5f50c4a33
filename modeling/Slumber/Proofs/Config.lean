import Slumber.Controller.Reconcile
import Slumber.Proofs.Backoff
import Slumber.Proofs.Schedule.Boundaries

/-!
# What accepted settings promise

Settings are accepted when the least delay after a failure is not zero and the greatest one is not
below it. No limit is put on their size, while the seconds of all delays are held in 64 bits. So a
promise about delays holds as far as its own seconds fit; beyond that there is no delay at all.

* `Config.ofEnvironment_ok` — what is checked;
* `Config.requeueFloor_eq` — the shortest delay between two looks;
* `accepted_delays_exact` — which delays there are, and that they are exact;
* `accepted_delays_overflow` — settings that are accepted and give no delay.
-/

namespace Slumber

namespace Config

variable {config : Config}

/-- The shortest delay is a second more than the setting for it, if that fits. -/
theorem requeueFloor_eq (config : Config) : config.requeueFloor
    = if config.minResyncSeconds.toNat + 1 < 2 ^ 64 then
        .ok ⟨config.minResyncSeconds.toNat + 1, 0⟩
      else .error .tooLarge := by
  unfold requeueFloor
  rw [word64_eq]
  by_cases h : config.minResyncSeconds.toNat + 1 < 2 ^ 64
  · rw [if_pos h, if_pos h]
    show Except.ok (Duration.mk (UInt64.ofNat (config.minResyncSeconds.toNat + 1)).toNat 0) = _
    rw [UInt64.toNat_ofNat_of_lt' h]
  · rw [if_neg h, if_neg h]
    rfl

/-- It is a number of whole seconds, and not zero. -/
theorem requeueFloor_eq_ok {floor : Duration} (h : config.requeueFloor = .ok floor) :
    floor = ⟨config.minResyncSeconds.toNat + 1, 0⟩ := by
  rw [requeueFloor_eq] at h
  split at h
  · exact (Except.ok.inj h).symm
  · cases h

theorem nanos_lt_of_requeueFloor {floor : Duration} (h : config.requeueFloor = .ok floor) :
    floor.nanos < 1000000000 := by
  rw [requeueFloor_eq_ok h]
  exact Nat.zero_lt_succ _

theorem requeueFloor_default : ({} : Config).requeueFloor = .ok ⟨61, 0⟩ := by
  decide

/-- Accepted settings have a least delay, which is not above the greatest one. -/
theorem ofEnvironment_ok {environment : String → Option String}
    (h : ofEnvironment environment = .ok config) :
    1 ≤ config.backoffMinMinutes.toNat
      ∧ config.backoffMinMinutes.toNat ≤ config.backoffMaxMinutes.toNat := by
  unfold ofEnvironment at h
  obtain ⟨address, -, h⟩ := bind_eq_ok.1 h
  obtain ⟨resync, -, h⟩ := bind_eq_ok.1 h
  obtain ⟨least, -, h⟩ := bind_eq_ok.1 h
  obtain ⟨greatest, -, h⟩ := bind_eq_ok.1 h
  by_cases hzero : least = 0
  · rw [if_pos hzero] at h
    cases h
  · rw [if_neg hzero] at h
    by_cases horder : greatest < least
    · rw [if_pos horder] at h
      cases h
    · rw [if_neg horder] at h
      cases h
      have hpositive : least.toNat ≠ 0 := fun heq => hzero (UInt64.toNat_inj.1 heq)
      rw [UInt64.lt_iff_toNat_lt] at horder
      show 1 ≤ least.toNat ∧ least.toNat ≤ greatest.toNat
      omega

end Config

/-! ### Exact delays -/

/-- The delays of a controller with some settings, in seconds: behind some failures and successes of
resources, the delay that one more failure of a resource gives. -/
def Config.delayBehind (config : Config) (events : List BackoffEvent) (key : String) :
    Except Overflow Nat :=
  (((Controller.ofConfig config).backoff.after events).recordError key).map fun r => r.1.1.toNat

variable {config : Config} {environment : String → Option String}

theorem Config.delayBehind_eq (h : ofEnvironment environment = .ok config)
    (events : List BackoffEvent) (key : String) :
    config.delayBehind events key
      = if Fits config.backoffMinMinutes.toNat config.backoffMaxMinutes.toNat
            (failuresInARow key events + 1) then
          .ok (60 * delayMinutes config.backoffMinMinutes.toNat config.backoffMaxMinutes.toNat
            (failuresInARow key events + 1))
        else .error .tooLarge := by
  obtain ⟨-, hle⟩ := ofEnvironment_ok h
  have hgreatest : (max config.backoffMaxMinutes config.backoffMinMinutes).toNat
      = config.backoffMaxMinutes.toNat := by
    rw [Backoff.toNat_max, Nat.max_eq_left hle]
  have hgiven := BackoffTracker.recordError_after_fst config.backoffMinMinutes
    config.backoffMaxMinutes events key
  rw [hgreatest] at hgiven
  have hmap : config.delayBehind events key
      = ((((Controller.ofConfig config).backoff.after events).recordError key).map Prod.fst).map
          fun r => r.1.toNat := by
    unfold delayBehind
    cases ((Controller.ofConfig config).backoff.after events).recordError key <;> rfl
  rw [hmap, Controller.ofConfig, hgiven]
  split
  · rename_i hfits
    show Except.ok (UInt64.ofNat _).toNat = _
    rw [UInt64.toNat_ofNat_of_lt' hfits.1]
  · rfl

/-- **Which delays there are.**  For all settings that are accepted,

* the shortest delay between two looks is a second more than the setting for it, if that number fits
  into 64 bits, and else there is none;
* behind any failures and successes of any resources, the delay that one more failure of a resource
  gives is the Fibonacci number of its failures in a row times the least delay, up to the greatest
  one, if the seconds of that delay fit and the failures have not been too many to count, and else
  there is none;
* all delays lie between the least and the greatest delay, and do not decrease as long as the
  resource keeps failing, whatever happens to other resources;
* if the seconds of the greatest delay fit, then every failure whose number in a row fits into 32
  bits has a delay. -/
theorem accepted_delays_exact (h : Config.ofEnvironment environment = .ok config) :
    (config.requeueFloor = if config.minResyncSeconds.toNat + 1 < 2 ^ 64 then
        .ok ⟨config.minResyncSeconds.toNat + 1, 0⟩
      else .error .tooLarge)
    ∧ ∀ events key n, n = failuresInARow key events + 1 →
      (config.delayBehind events key
        = if 60 * delayMinutes config.backoffMinMinutes.toNat config.backoffMaxMinutes.toNat n
              < 2 ^ 64 ∧ n < 2 ^ 32 then
            .ok (60 * delayMinutes config.backoffMinMinutes.toNat config.backoffMaxMinutes.toNat n)
          else .error .tooLarge)
      ∧ (∀ delay, config.delayBehind events key = .ok delay →
        60 * config.backoffMinMinutes.toNat ≤ delay
        ∧ delay ≤ 60 * config.backoffMaxMinutes.toNat
        ∧ ∀ others : List BackoffEvent, (∀ e ∈ others, e.key ≠ key) →
          ∀ later, config.delayBehind (events ++ .failure key :: others) key = .ok later →
            delay ≤ later)
      ∧ (60 * config.backoffMaxMinutes.toNat < 2 ^ 64 → n < 2 ^ 32 →
        ∃ delay, config.delayBehind events key = .ok delay) := by
  obtain ⟨-, hle⟩ := Config.ofEnvironment_ok h
  have hgiven : ∀ events key delay, config.delayBehind events key = .ok delay →
      delay = 60 * delayMinutes config.backoffMinMinutes.toNat config.backoffMaxMinutes.toNat
        (failuresInARow key events + 1) := by
    intro events key delay hdelay
    rw [Config.delayBehind_eq h] at hdelay
    split at hdelay
    · exact (Except.ok.inj hdelay).symm
    · cases hdelay
  refine ⟨config.requeueFloor_eq, ?_⟩
  rintro events key n rfl
  refine ⟨Config.delayBehind_eq h events key, fun delay hdelay => ?_, fun hgreatest hcount => ?_⟩
  · have hleast := le_delayMinutes hle (failuresInARow key events)
    have hgreatest := delayMinutes_le config.backoffMinMinutes.toNat config.backoffMaxMinutes.toNat
      (failuresInARow key events + 1)
    rw [hgiven events key delay hdelay]
    refine ⟨Nat.mul_le_mul_left 60 hleast, Nat.mul_le_mul_left 60 hgreatest, ?_⟩
    intro others hothers later hlater
    have hcount : failuresInARow key (events ++ .failure key :: others)
        = failuresInARow key events + 1 := by
      rw [failuresInARow_append, List.foldl_cons, BackoffEvent.count_failure,
        count_others hothers]
    rw [hgiven _ key later hlater, hcount]
    exact Nat.mul_le_mul_left 60 (delayMinutes_mono _ _ (Nat.le_succ _))
  · rw [Config.delayBehind_eq h, if_pos ((fits_iff_of_greatest hgreatest).2 hcount)]
    exact ⟨_, rfl⟩

/-! ### Instances -/

/-- An environment that sets the delays after failures. -/
def delaysOf (least greatest : String) : String → Option String
  | "ERROR_BACKOFF_MIN_MINUTES" => some least
  | "ERROR_BACKOFF_MAX_MINUTES" => some greatest
  | _ => none

/-- With two to thirty minutes, the fourth failure in a row of a resource waits six minutes, though
another resource has failed and recovered in the meantime. -/
theorem accepted_delays_exact_two_to_thirty :
    ∃ config, Config.ofEnvironment (delaysOf "2" "30") = .ok config
      ∧ 60 * config.backoffMaxMinutes.toNat < 2 ^ 64
      ∧ config.requeueFloor = .ok ⟨61, 0⟩
      ∧ config.delayBehind [.failure "ops/nights", .failure "ops/nights", .failure "ops/days",
          .success "ops/days", .failure "ops/nights"] "ops/nights" = .ok 360 := by
  have h : Config.ofEnvironment (delaysOf "2" "30")
      = .ok { backoffMinMinutes := 2, backoffMaxMinutes := 30 } := by decide +kernel
  obtain ⟨hfloor, hdelays⟩ := accepted_delays_exact h
  obtain ⟨hdelay, -⟩ := hdelays [.failure "ops/nights", .failure "ops/nights", .failure "ops/days",
    .success "ops/days", .failure "ops/nights"] "ops/nights" 4 (by decide)
  refine ⟨_, h, by decide, ?_, ?_⟩
  · rw [hfloor, if_pos (by decide)]
    rfl
  · rw [hdelay, if_pos (by decide +kernel)]
    decide +kernel

/-- An environment that sets the shortest delay between two looks. -/
def resyncOf (seconds : String) : String → Option String
  | "MIN_RESYNC_INTERVAL_SECONDS" => some seconds
  | _ => none

/-- **Delays that overflow.**  Settings are accepted for which there is no shortest delay between
two looks at all. Others are accepted for which the third failure in a row has no delay, though the
second has one. -/
theorem accepted_delays_overflow :
    (∃ config, Config.ofEnvironment (resyncOf "18446744073709551615") = .ok config
      ∧ config.minResyncSeconds.toNat + 1 = 2 ^ 64 ∧ config.requeueFloor = .error .tooLarge)
    ∧ ∃ config, Config.ofEnvironment (delaysOf "200000000000000000" "400000000000000000")
        = .ok config
      ∧ config.delayBehind [.failure "ops/nights"] "ops/nights" = .ok 12000000000000000000
      ∧ config.delayBehind [.failure "ops/nights", .failure "ops/nights"] "ops/nights"
        = .error .tooLarge := by
  constructor
  · have h : Config.ofEnvironment (resyncOf "18446744073709551615")
        = .ok { minResyncSeconds := 18446744073709551615 } := by decide +kernel
    exact ⟨_, h, by decide +kernel, by decide +kernel⟩
  · have h : Config.ofEnvironment (delaysOf "200000000000000000" "400000000000000000")
        = .ok { backoffMinMinutes := 200000000000000000,
                backoffMaxMinutes := 400000000000000000 } := by decide +kernel
    exact ⟨_, h, by decide +kernel, by decide +kernel⟩

end Slumber
