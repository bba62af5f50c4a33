import Mathlib.Data.Nat.Fib.Basic
import Slumber.Backoff

/-!
# Delays are capped Fibonacci numbers

The delay behind the `n`-th failure in a row is the `n`-th Fibonacci number times the least delay,
up to the greatest one. Delays are held in 64 bits, in minutes, and given in seconds, and failures
are counted in 32 bits. A failure has a delay as long as its own seconds and its number fit, since
the sum of two delays that have been given fits all the more; and where one failure in a row has no
delay, none of the later ones has.

* `delayMinutes` — the delays as numbers without bounds;
* `FailureState.next_ofFailures` — one more failure of one key;
* `BackoffEvent`, `failuresInARow` — failures and successes of many keys, and what counts for one;
* `BackoffTracker.inARow_after` — the sequence of each key starts again with each success;
* `BackoffTracker.recordError_inARow` — a failure has its exact delay if and only if that fits;
* `BackoffTracker.recordError_after` — what a failure of a key gives behind any events.
-/

namespace Slumber

/-! ### Words -/

theorem word64_eq (n : Nat) :
    word64 n = if n < 2 ^ 64 then .ok (.ofNat n) else .error .tooLarge := rfl

theorem word32_eq (n : Nat) :
    word32 n = if n < 2 ^ 32 then .ok (.ofNat n) else .error .tooLarge := rfl

/-! ### Delays without bounds -/

/-- The minutes to wait behind the `n`-th failure in a row. -/
def delayMinutes (least greatest n : Nat) : Nat :=
  min (Nat.fib n * least) greatest

theorem delayMinutes_mono (least greatest : Nat) : Monotone (delayMinutes least greatest) := by
  intro m n h
  have hfib : Nat.fib m * least ≤ Nat.fib n * least := Nat.mul_le_mul_right _ (Nat.fib_mono h)
  unfold delayMinutes
  omega

theorem delayMinutes_le (least greatest n : Nat) : delayMinutes least greatest n ≤ greatest :=
  Nat.min_le_right _ _

theorem delayMinutes_one {least greatest : Nat} (h : least ≤ greatest) :
    delayMinutes least greatest 1 = least := by
  simp [delayMinutes, h]

theorem le_delayMinutes {least greatest : Nat} (h : least ≤ greatest) (n : Nat) :
    least ≤ delayMinutes least greatest (n + 1) := by
  have hmono := delayMinutes_mono least greatest (show 1 ≤ n + 1 by omega)
  rw [delayMinutes_one h] at hmono
  exact hmono

/-- Each delay is the sum of the two before it, up to the greatest one. -/
theorem delayMinutes_add_two (least greatest n : Nat) :
    delayMinutes least greatest (n + 2)
      = min (delayMinutes least greatest n + delayMinutes least greatest (n + 1)) greatest := by
  unfold delayMinutes
  rw [Nat.fib_add_two, Nat.add_mul]
  omega

/-- The delay and the number of the `n`-th failure in a row fit. -/
def Fits (least greatest n : Nat) : Prop :=
  60 * delayMinutes least greatest n < 2 ^ 64 ∧ n < 2 ^ 32

instance (least greatest n : Nat) : Decidable (Fits least greatest n) :=
  inferInstanceAs (Decidable (_ ∧ _))

theorem Fits.mono {least greatest m n : Nat} (h : Fits least greatest n) (hmn : m ≤ n) :
    Fits least greatest m := by
  have hmono := delayMinutes_mono least greatest hmn
  exact ⟨by have := h.1; omega, by have := h.2; omega⟩

/-- Where the greatest delay fits, only the number of a failure can be too large. -/
theorem fits_iff_of_greatest {least greatest n : Nat} (h : 60 * greatest < 2 ^ 64) :
    Fits least greatest n ↔ n < 2 ^ 32 := by
  have hle := delayMinutes_le least greatest n
  exact ⟨fun hfits => hfits.2, fun hn => ⟨by omega, hn⟩⟩

theorem fits_zero (least greatest : Nat) : Fits least greatest 0 :=
  ⟨by simp [delayMinutes], by decide⟩

/-! ### One sequence -/

namespace Backoff

theorem toNat_min (a b : UInt64) : (min a b).toNat = min a.toNat b.toNat := by
  show (if a ≤ b then a else b).toNat = _
  by_cases h : a ≤ b
  · rw [if_pos h, Nat.min_eq_left (UInt64.le_iff_toNat_le.1 h)]
  · rw [if_neg h]
    rw [UInt64.le_iff_toNat_le] at h
    omega

theorem toNat_max (a b : UInt64) : (max a b).toNat = max a.toNat b.toNat := by
  show (if a ≤ b then b else a).toNat = _
  by_cases h : a ≤ b
  · rw [if_pos h, Nat.max_eq_right (UInt64.le_iff_toNat_le.1 h)]
  · rw [if_neg h]
    rw [UInt64.le_iff_toNat_le] at h
    omega

end Backoff

namespace FailureState

/-- What one more failure gives: nothing, if a number is too large. -/
theorem next_eq (s : FailureState) : s.next =
    if s.failures.toNat + 1 < 2 ^ 32 ∧ s.backoff.current.toNat * 60 < 2 ^ 64
        ∧ s.backoff.previous.toNat + s.backoff.current.toNat < 2 ^ 64 then
      .ok (.ofNat (s.backoff.current.toNat * 60),
        { backoff := { s.backoff with
            previous := s.backoff.current
            current := min (.ofNat (s.backoff.previous.toNat + s.backoff.current.toNat))
              s.backoff.greatest }
          failures := .ofNat (s.failures.toNat + 1) })
    else .error .tooLarge := by
  unfold next Backoff.next
  simp only [word32_eq, word64_eq]
  by_cases hcount : s.failures.toNat + 1 < 2 ^ 32
  · by_cases hdelay : s.backoff.current.toNat * 60 < 2 ^ 64
    · by_cases hsum : s.backoff.previous.toNat + s.backoff.current.toNat < 2 ^ 64
      · simp only [hcount, hdelay, hsum, and_self, if_true]
        rfl
      · simp only [hcount, hdelay, hsum, and_false, if_true, if_false]
        rfl
    · simp only [hcount, hdelay, false_and, and_false, if_true, if_false]
      rfl
  · simp only [hcount, false_and, if_false]
    rfl

variable {least greatest : UInt64} {n : Nat}

/-- The failures of a key that has failed `n` times in a row. -/
def ofFailures (least greatest : UInt64) (n : Nat) : FailureState where
  backoff := {
    least
    previous := .ofNat (delayMinutes least.toNat (max greatest least).toNat n)
    current := .ofNat (delayMinutes least.toNat (max greatest least).toNat (n + 1))
    greatest := max greatest least }
  failures := .ofNat n

theorem least_le_greatest (least greatest : UInt64) : least.toNat ≤ (max greatest least).toNat := by
  rw [Backoff.toNat_max]
  exact Nat.le_max_right _ _

theorem start_eq (least greatest : UInt64) :
    start least greatest = ofFailures least greatest 0 := by
  unfold ofFailures
  rw [delayMinutes_one (least_le_greatest least greatest), UInt64.ofNat_toNat]
  simp [delayMinutes, start, Backoff.start]

theorem reset_ofFailures (n : Nat) :
    (ofFailures least greatest n).reset = ofFailures least greatest 0 := by
  rw [← start_eq]
  rfl

/-- A delay in minutes fits into its word, as the greatest one does. -/
theorem toNat_ofNat_delayMinutes (least greatest : UInt64) (n : Nat) :
    (UInt64.ofNat (delayMinutes least.toNat (max greatest least).toNat n)).toNat
      = delayMinutes least.toNat (max greatest least).toNat n :=
  UInt64.toNat_ofNat_of_lt'
    (Nat.lt_of_le_of_lt (delayMinutes_le _ _ _) (max greatest least).toNat_lt)

/-- **One more failure.**  Behind `n` failures in a row that had delays, the next one has its exact
delay, if that and its number fit, and else none. -/
theorem next_ofFailures (h : Fits least.toNat (max greatest least).toNat n) :
    (ofFailures least greatest n).next
      = if Fits least.toNat (max greatest least).toNat (n + 1) then
          .ok (.ofNat (60 * delayMinutes least.toNat (max greatest least).toNat (n + 1)),
            ofFailures least greatest (n + 1))
        else .error .tooLarge := by
  have hcount : (UInt32.ofNat n).toNat = n := UInt32.toNat_ofNat_of_lt' h.2
  have hprevious := toNat_ofNat_delayMinutes least greatest n
  have hcurrent := toNat_ofNat_delayMinutes least greatest (n + 1)
  have hmono := delayMinutes_mono least.toNat (max greatest least).toNat (show n ≤ n + 1 by omega)
  have htwo := delayMinutes_add_two least.toNat (max greatest least).toNat n
  rw [next_eq]
  simp only [ofFailures, hcount, hprevious, hcurrent]
  generalize hm : delayMinutes least.toNat (max greatest least).toNat n = m at *
  by_cases hfits : Fits least.toNat (max greatest least).toNat (n + 1)
  · obtain ⟨hdelay, hnumber⟩ := hfits
    -- The sum of two delays is at most twice the greater one, whose seconds fit.
    have hsum : m + delayMinutes least.toNat (max greatest least).toNat (n + 1) < 2 ^ 64 := by omega
    have hnext : min (.ofNat (m + delayMinutes least.toNat (max greatest least).toNat (n + 1)))
        (max greatest least)
        = UInt64.ofNat (delayMinutes least.toNat (max greatest least).toNat (n + 2)) := by
      rw [← UInt64.toNat_inj, Backoff.toNat_min, UInt64.toNat_ofNat_of_lt' hsum,
        toNat_ofNat_delayMinutes, htwo]
    rw [if_pos ⟨hnumber, by omega, hsum⟩, if_pos ⟨hdelay, hnumber⟩, hnext, Nat.mul_comm]
  · rw [if_neg fun hall => hfits ⟨by omega, hall.1⟩, if_neg hfits]

end FailureState

/-! ### Many keys -/

/-- What bears on the delays of keys: one more failure of a key, or a success. -/
inductive BackoffEvent where
  | failure (key : String)
  | success (key : String)
deriving DecidableEq, Repr

/-- The key that an event is about. -/
def BackoffEvent.key : BackoffEvent → String
  | .failure key => key
  | .success key => key

/-- The number of failures in a row of a key behind an event. -/
def BackoffEvent.count (key : String) (n : Nat) (e : BackoffEvent) : Nat :=
  if e.key = key then
    match e with
    | .failure _ => n + 1
    | .success _ => 0
  else n

theorem BackoffEvent.count_of_ne {key : String} {e : BackoffEvent} (h : e.key ≠ key) (n : Nat) :
    e.count key n = n := by
  unfold count
  exact if_neg h

theorem BackoffEvent.count_failure (key : String) (n : Nat) :
    (BackoffEvent.failure key).count key n = n + 1 := by
  simp [count, BackoffEvent.key]

theorem BackoffEvent.count_success (key : String) (n : Nat) :
    (BackoffEvent.success key).count key n = 0 := by
  simp [count, BackoffEvent.key]

/-- How many failures of a key there were since its last success. -/
def failuresInARow (key : String) (events : List BackoffEvent) : Nat :=
  events.foldl (BackoffEvent.count key) 0

theorem failuresInARow_append (key : String) (events others : List BackoffEvent) :
    failuresInARow key (events ++ others)
      = others.foldl (BackoffEvent.count key) (failuresInARow key events) :=
  List.foldl_append

/-- Events of other keys do not count. -/
theorem count_others {key : String} {others : List BackoffEvent}
    (h : ∀ e ∈ others, e.key ≠ key) (n : Nat) :
    others.foldl (BackoffEvent.count key) n = n := by
  induction others with
  | nil => rfl
  | cons e others ih =>
      rw [List.foldl_cons, BackoffEvent.count_of_ne (h e List.mem_cons_self)]
      exact ih fun e' he' => h e' (List.mem_cons_of_mem _ he')

/-- Only the events of a key count for it. -/
theorem failuresInARow_filter (key : String) (events : List BackoffEvent) :
    failuresInARow key (events.filter fun e => e.key = key) = failuresInARow key events := by
  have hfold : ∀ n, (events.filter fun e => e.key = key).foldl (BackoffEvent.count key) n
      = events.foldl (BackoffEvent.count key) n := by
    induction events with
    | nil => exact fun n => rfl
    | cons e events ih =>
        intro n
        by_cases hkey : e.key = key
        · rw [List.filter_cons_of_pos (by simpa using hkey), List.foldl_cons, List.foldl_cons, ih]
        · rw [List.filter_cons_of_neg (by simpa using hkey), List.foldl_cons,
            BackoffEvent.count_of_ne hkey, ih]
  exact hfold 0

namespace BackoffTracker

/-- The tracker behind an event. A failure that overflows is not noted. -/
def behind (t : BackoffTracker) : BackoffEvent → BackoffTracker
  | .failure key =>
      match t.recordError key with
      | .ok (_, t') => t'
      | .error _ => t
  | .success key => t.reset key

/-- The tracker behind some events. -/
def after (t : BackoffTracker) (events : List BackoffEvent) : BackoffTracker :=
  events.foldl behind t

/-- The key has failed `n` times in a row: `k` of them had a delay, and the others, if there are
any, had none as the next one would not have fitted. -/
def InARow (t : BackoffTracker) (key : String) (n : Nat) : Prop :=
  ∃ k ≤ n, t.stateOf key = .ofFailures t.least t.greatest k
    ∧ Fits t.least.toNat (max t.greatest t.least).toNat k
    ∧ (k < n → ¬ Fits t.least.toNat (max t.greatest t.least).toNat (k + 1))

variable {t t' : BackoffTracker} {key : String} {n : Nat}

theorem inARow_start (least greatest : UInt64) (key : String) :
    InARow { least, greatest } key 0 :=
  ⟨0, Nat.le_refl 0, FailureState.start_eq least greatest, fits_zero _ _,
    fun hlt => absurd hlt (Nat.lt_irrefl 0)⟩

theorem recordError_of_next {delay : UInt64} {s : FailureState}
    (h : (t.stateOf key).next = .ok (delay, s)) :
    t.recordError key = .ok ((delay, s.failures), { t with states := t.states.insert key s }) := by
  unfold recordError
  rw [h]
  rfl

theorem recordError_of_overflow {stop : Overflow} (h : (t.stateOf key).next = .error stop) :
    t.recordError key = .error stop := by
  unfold recordError
  rw [h]
  rfl

theorem behind_of_recordError {given : UInt64 × UInt32} (h : t.recordError key = .ok (given, t')) :
    t.behind (.failure key) = t' := by
  show (match t.recordError key with | .ok (_, t') => t' | .error _ => t) = t'
  rw [h]

theorem behind_of_overflow {stop : Overflow} (h : t.recordError key = .error stop) :
    t.behind (.failure key) = t := by
  show (match t.recordError key with | .ok (_, t') => t' | .error _ => t) = t
  rw [h]

/-- What a failure leaves: the failures of its own key with one more, if that has a delay. -/
theorem behind_failure (t : BackoffTracker) (key : String) : t.behind (.failure key)
    = match (t.stateOf key).next with
      | .ok (_, s) => { t with states := t.states.insert key s }
      | .error _ => t := by
  cases hnext : (t.stateOf key).next with
  | ok p => exact behind_of_recordError (recordError_of_next hnext)
  | error stop => exact behind_of_overflow (recordError_of_overflow hnext)

theorem bounds_behind (t : BackoffTracker) (e : BackoffEvent) :
    (t.behind e).least = t.least ∧ (t.behind e).greatest = t.greatest := by
  cases e with
  | failure key =>
      rw [behind_failure]
      split <;> exact ⟨rfl, rfl⟩
  | success key =>
      show (t.reset key).least = t.least ∧ (t.reset key).greatest = t.greatest
      unfold reset
      split <;> exact ⟨rfl, rfl⟩

theorem stateOf_insert_self (t : BackoffTracker) (key : String) (s : FailureState) :
    stateOf { t with states := t.states.insert key s } key = s := by
  unfold stateOf
  rw [FiniteMap.find?_insert_self]
  rfl

theorem stateOf_insert_of_ne (t : BackoffTracker) {other : String} (h : other ≠ key)
    (s : FailureState) :
    stateOf { t with states := t.states.insert other s } key = t.stateOf key := by
  unfold stateOf
  rw [FiniteMap.find?_insert_of_ne _ _ h]

/-- To forget a key that has not failed changes nothing, as it is at its start. -/
theorem stateOf_reset_self (t : BackoffTracker) (key : String) :
    (t.reset key).stateOf key = (t.stateOf key).reset := by
  unfold reset
  cases hknown : t.states.find? key with
  | none =>
      unfold stateOf
      dsimp only
      rw [hknown]
      rfl
  | some s =>
      dsimp only
      rw [stateOf_insert_self, stateOf, hknown]
      rfl

/-- An event of another key leaves the failures of a key alone. -/
theorem stateOf_behind_of_ne (t : BackoffTracker) {e : BackoffEvent} (h : e.key ≠ key) :
    (t.behind e).stateOf key = t.stateOf key := by
  cases e with
  | failure other =>
      rw [behind_failure]
      split
      · exact stateOf_insert_of_ne t h _
      · rfl
  | success other =>
      show (t.reset other).stateOf key = _
      unfold reset
      split
      · exact stateOf_insert_of_ne t h _
      · rfl

/-- **Step.**  An event counts for its own key, and for no other. -/
theorem InARow.behind (h : InARow t key n) (e : BackoffEvent) :
    InARow (t.behind e) key (e.count key n) := by
  obtain ⟨k, hk, hstate, hfits, hstuck⟩ := h
  obtain ⟨hleast, hgreatest⟩ := t.bounds_behind e
  unfold InARow
  rw [hleast, hgreatest]
  by_cases hkey : e.key = key
  · cases e with
    | failure other =>
        obtain rfl : other = key := hkey
        rw [behind_failure, hstate, FailureState.next_ofFailures hfits, BackoffEvent.count_failure]
        by_cases hnext : Fits t.least.toNat (max t.greatest t.least).toNat (k + 1)
        · obtain rfl : k = n := Nat.le_antisymm hk (Nat.le_of_not_lt fun hlt => hstuck hlt hnext)
          rw [if_pos hnext]
          exact ⟨k + 1, Nat.le_refl _, stateOf_insert_self t other _, hnext,
            fun hlt => absurd hlt (Nat.lt_irrefl _)⟩
        · rw [if_neg hnext]
          exact ⟨k, Nat.le_succ_of_le hk, hstate, hfits, fun _ => hnext⟩
    | success other =>
        obtain rfl : other = key := hkey
        rw [BackoffEvent.count_success]
        refine ⟨0, Nat.le_refl 0, ?_, fits_zero _ _, fun hlt => absurd hlt (Nat.lt_irrefl 0)⟩
        show (t.reset other).stateOf other = _
        rw [stateOf_reset_self, hstate, FailureState.reset_ofFailures]
  · rw [stateOf_behind_of_ne t hkey, BackoffEvent.count_of_ne hkey]
    exact ⟨k, hk, hstate, hfits, hstuck⟩

theorem InARow.foldl (h : InARow t key n) (events : List BackoffEvent) :
    InARow (t.after events) key (events.foldl (BackoffEvent.count key) n) := by
  induction events generalizing t n with
  | nil => exact h
  | cons e events ih => exact ih (h.behind e)

theorem bounds_after (t : BackoffTracker) (events : List BackoffEvent) :
    (t.after events).least = t.least ∧ (t.after events).greatest = t.greatest := by
  induction events generalizing t with
  | nil => exact ⟨rfl, rfl⟩
  | cons e events ih =>
      obtain ⟨hleast, hgreatest⟩ := t.bounds_behind e
      obtain ⟨hleast', hgreatest'⟩ := ih (t.behind e)
      exact ⟨hleast'.trans hleast, hgreatest'.trans hgreatest⟩

/-- **Run.**  Behind any events the sequence of each key is where its own failures since its last
success have taken it. -/
theorem inARow_after (least greatest : UInt64) (events : List BackoffEvent) (key : String) :
    InARow (after { least, greatest } events) key (failuresInARow key events) :=
  (inARow_start least greatest key).foldl events

/-- A failure gives the delay and the number of its state. -/
theorem recordError_fst (t : BackoffTracker) (key : String) :
    (t.recordError key).map Prod.fst
      = (t.stateOf key).next.map fun p => (p.1, p.2.failures) := by
  cases hnext : (t.stateOf key).next with
  | ok p => rw [recordError_of_next hnext]; rfl
  | error stop => rw [recordError_of_overflow hnext]; rfl

/-- **Exact delays.**  The next failure of a key that has failed `n` times in a row has its exact
delay, if that and its number fit, and else none. -/
theorem recordError_inARow (h : InARow t key n) : (t.recordError key).map Prod.fst
    = if Fits t.least.toNat (max t.greatest t.least).toNat (n + 1) then
        .ok (.ofNat (60 * delayMinutes t.least.toNat (max t.greatest t.least).toNat (n + 1)),
          .ofNat (n + 1))
      else .error .tooLarge := by
  obtain ⟨k, hk, hstate, hfits, hstuck⟩ := h
  rw [recordError_fst, hstate, FailureState.next_ofFailures hfits]
  rcases Nat.lt_or_eq_of_le hk with hlt | rfl
  · have hnext := hstuck hlt
    rw [if_neg hnext, if_neg fun h => hnext (h.mono (by omega))]
    rfl
  · split <;> rfl

/-- What is known of a failure behind any events of any keys. -/
theorem recordError_after_fst (least greatest : UInt64) (events : List BackoffEvent)
    (key : String) : ((after { least, greatest } events).recordError key).map Prod.fst
      = if Fits least.toNat (max greatest least).toNat (failuresInARow key events + 1) then
          .ok (.ofNat (60 * delayMinutes least.toNat (max greatest least).toNat
              (failuresInARow key events + 1)), .ofNat (failuresInARow key events + 1))
        else .error .tooLarge := by
  obtain ⟨hleast, hgreatest⟩ := bounds_after { least, greatest } events
  rw [recordError_inARow (inARow_after least greatest events key), hleast, hgreatest]

/-! ### Keys that are not known -/

/-- To forget a key that is not known changes nothing. -/
theorem reset_of_unknown {other : String} (hunknown : t.states.find? other = none) :
    t.reset other = t := by
  unfold reset
  rw [hunknown]

/-- Only a failure makes a key known. -/
theorem find?_behind {e : BackoffEvent} {other : String} (h : e ≠ .failure other)
    (hunknown : t.states.find? other = none) : (t.behind e).states.find? other = none := by
  cases e with
  | failure key =>
      have hne : key ≠ other := fun heq => h (heq ▸ rfl)
      rw [behind_failure]
      split
      · show FiniteMap.find? (t.states.insert key _) other = none
        rw [FiniteMap.find?_insert_of_ne _ _ hne, hunknown]
      · exact hunknown
  | success key =>
      show (t.reset key).states.find? other = none
      unfold reset
      cases hknown : t.states.find? key with
      | none => exact hunknown
      | some s =>
          have hne : key ≠ other := by
            rintro rfl
            rw [hunknown] at hknown
            cases hknown
          show FiniteMap.find? (t.states.insert key _) other = none
          rw [FiniteMap.find?_insert_of_ne _ _ hne, hunknown]

theorem find?_after {events : List BackoffEvent} {other : String} (h : .failure other ∉ events)
    (hunknown : t.states.find? other = none) : (t.after events).states.find? other = none := by
  induction events generalizing t with
  | nil => exact hunknown
  | cons e events ih =>
      obtain ⟨hne, hrest⟩ := not_or.1 (mt List.mem_cons.2 h)
      exact ih hrest (find?_behind (Ne.symm hne) hunknown)

/-! ### What a failure gives -/

/-- **Capped Fibonacci numbers, for each key on its own.**  If the greatest delay fits, then behind
any events of any keys the `n`-th failure of a key since its last success

* gives the `n`-th Fibonacci number times the least delay, up to the greatest one, which is not
  below the least, and the number `n`;
* overflows if the number does not fit;
* gives what it would without the events of other keys.

And to forget a key that has not failed leaves the tracker as it is. -/
theorem recordError_after {least greatest : UInt64}
    (hfits : 60 * max least.toNat greatest.toNat < 2 ^ 64) (events : List BackoffEvent)
    (key : String) {n : Nat} (hn : n = failuresInARow key events + 1) :
    (n < 2 ^ 32 → ∃ delay count t',
      (after { least, greatest } events).recordError key = .ok ((delay, count), t')
        ∧ delay.toNat = 60 * min (Nat.fib n * least.toNat) (max least.toNat greatest.toNat)
        ∧ count.toNat = n)
    ∧ (2 ^ 32 ≤ n → (after { least, greatest } events).recordError key = .error .tooLarge)
    ∧ ((after { least, greatest } events).recordError key).map Prod.fst
        = ((after { least, greatest } (events.filter fun e => e.key = key)).recordError key).map
            Prod.fst
    ∧ ∀ other, .failure other ∉ events →
      (after { least, greatest } events).reset other = after { least, greatest } events := by
  subst hn
  have hgiven := recordError_after_fst least greatest events key
  have hgreatest : (max greatest least).toNat = max least.toNat greatest.toNat := by
    rw [Backoff.toNat_max, Nat.max_comm]
  have hnumber : Fits least.toNat (max least.toNat greatest.toNat) (failuresInARow key events + 1)
      ↔ failuresInARow key events + 1 < 2 ^ 32 := fits_iff_of_greatest hfits
  rw [hgreatest] at hgiven
  refine ⟨fun hcount => ?_, fun hcount => ?_, ?_, fun other hother => ?_⟩
  · rw [if_pos (hnumber.2 hcount)] at hgiven
    have hdelay := (hnumber.2 hcount).1
    cases hrecord : (after { least, greatest } events).recordError key with
    | error stop =>
        rw [hrecord] at hgiven
        cases hgiven
    | ok p =>
        obtain ⟨⟨delay, count⟩, t'⟩ := p
        rw [hrecord] at hgiven
        cases hgiven
        exact ⟨_, _, t', rfl, UInt64.toNat_ofNat_of_lt' hdelay, UInt32.toNat_ofNat_of_lt' hcount⟩
  · rw [if_neg fun hall => Nat.not_lt.2 hcount (hnumber.1 hall)] at hgiven
    cases hrecord : (after { least, greatest } events).recordError key with
    | error stop => rfl
    | ok p =>
        rw [hrecord] at hgiven
        cases hgiven
  · rw [recordError_after_fst, recordError_after_fst, failuresInARow_filter]
  · exact reset_of_unknown (find?_after hother rfl)

/-- A failure and a success of a key, then six failures of it, with other keys in between. -/
def interleaved : List BackoffEvent :=
  [.failure "prod/nightly", .success "prod/nightly", .failure "prod/nightly",
    .failure "dev/weekend", .failure "prod/nightly", .failure "prod/nightly",
    .success "dev/weekend", .failure "prod/nightly", .failure "prod/nightly",
    .failure "dev/weekend", .failure "prod/nightly"]

/-- The seventh failure in a row reaches the greatest delay of ten minutes: the seventh Fibonacci
number is 13. -/
theorem recordError_after_interleaved :
    60 * max (1 : UInt64).toNat (10 : UInt64).toNat < 2 ^ 64
    ∧ 7 = failuresInARow "prod/nightly" interleaved + 1
    ∧ (∃ delay count t', (after ⟨1, 10, []⟩ interleaved).recordError "prod/nightly"
        = .ok ((delay, count), t') ∧ delay.toNat = 60 * 10 ∧ count.toNat = 7)
    ∧ (after ⟨1, 10, []⟩ interleaved).reset "staging/unknown" = after ⟨1, 10, []⟩ interleaved := by
  have hfits : 60 * max (1 : UInt64).toNat (10 : UInt64).toNat < 2 ^ 64 := by decide
  have hn : 7 = failuresInARow "prod/nightly" interleaved + 1 := by decide
  obtain ⟨hgiven, -, -, hunknown⟩ := recordError_after hfits interleaved "prod/nightly" hn
  exact ⟨hfits, hn, hgiven (by decide), hunknown _ (by decide)⟩

end BackoffTracker

end Slumber
