import Slumber.Proofs.Controller.Gates
import Slumber.Proofs.Controller.Retries
import Slumber.Proofs.SortedMap
import Slumber.Time.ClockHistory

/-!
# What the metrics account for

Three places of the controller change the metrics: the look counts its reports, a success counts the
outcome and sets the gauge, and the handling of a failure counts an error. `Attempt.Ends` lists how
an attempt can end, with the controller behind it; from this list it follows what one attempt adds
to the metrics, and what all attempts add up to.

* `Series.value_count`, `Series.sum_count` — one more count;
* `Attempt.Ends`, `Controller.attempt_ends` — the cases of an attempt;
* `LastShown` — the status that a gauge shows;
* `Metrics.Account`, `Metrics.Account.step` — what the metrics say of attempts, and the step;
* `metrics_account` — the run;
* `overflow_uncounted` — a look that overflows is not counted.
-/

namespace Slumber

/-! ### Series -/

/-- Setting a value changes the sum of all values by the difference. -/
theorem FiniteMap.Sorted.sum_values_insert {κ : Type} [DecidableEq κ] [LT κ] [DecidableLT κ]
    [Std.Asymm (fun a b : κ => a < b)] [IsTrans κ (fun a b => a < b)] {m : FiniteMap κ Nat}
    (hm : m.Sorted) (x : κ) (v : Nat) :
    (m.insert x v).values.sum + (m.find? x).getD 0 = m.values.sum + v := by
  induction m with
  | nil => simp [FiniteMap.insert, values]
  | cons p m ih =>
      obtain ⟨k, w⟩ := p
      obtain ⟨hhead, htail⟩ := List.pairwise_cons.1 hm
      simp only [FiniteMap.insert, find?]
      by_cases hk : k = x
      · rw [if_pos hk, if_pos hk]
        simp only [values, List.map_cons, List.sum_cons, Option.getD_some]
        omega
      · rw [if_neg hk, if_neg hk]
        by_cases hx : x < k
        · -- The key is new, for all keys behind the first one are greater still.
          have hnew : FiniteMap.find? m x = none := find?_eq_none fun hmem => by
            obtain ⟨q, hq, rfl⟩ := List.mem_map.1 hmem
            exact not_lt_self q.1 (trans_of (fun a b : κ => a < b) hx (hhead q hq))
          rw [if_pos hx, hnew]
          simp only [values, List.map_cons, List.sum_cons, Option.getD_none]
          omega
        · rw [if_neg hx]
          have hrest := ih htail
          simp only [values, List.map_cons, List.sum_cons] at hrest ⊢
          omega

namespace Series

/-- The value of a series, which is zero before it is first counted. -/
def value (s : Series) (labels : List String) : Nat :=
  (s.find? labels).getD 0

theorem value_count (s : Series) (labels labels' : List String) (n : Nat) :
    (s.count labels n).value labels' = s.value labels' + if labels = labels' then n else 0 := by
  unfold count value
  by_cases h : labels = labels'
  · subst h
    rw [FiniteMap.find?_insert_self, if_pos rfl]
    rfl
  · rw [FiniteMap.find?_insert_of_ne _ _ h, if_neg h, Nat.add_zero]

theorem sorted_count {s : Series} (hs : s.Sorted) (labels : List String) (n : Nat) :
    FiniteMap.Sorted (s.count labels n) :=
  FiniteMap.Sorted.insert hs _ _

theorem sum_count {s : Series} (hs : s.Sorted) (labels : List String) (n : Nat) :
    (FiniteMap.values (s.count labels n)).sum = (FiniteMap.values s).sum + n := by
  have hsum := hs.sum_values_insert labels ((s.find? labels).getD 0 + n)
  unfold count
  omega

end Series

/-! ### Reports -/

/-- How many objects the reports of an action list with a status. -/
def impactedIn (reports : List Report) (a : Action) (s : ObjectStatus) : Nat :=
  ((reports.filter (·.action = a)).flatMap Report.impacted).countP (·.status = s)

/-- How many objects the reports of an action list as left alone. -/
def excludedIn (reports : List Report) (a : Action) : Nat :=
  ((reports.filter (·.action = a)).flatMap Report.excluded).length

theorem impactedIn_append (reports others : List Report) (a : Action) (s : ObjectStatus) :
    impactedIn (reports ++ others) a s = impactedIn reports a s + impactedIn others a s := by
  simp only [impactedIn, List.filter_append, List.flatMap_append, List.countP_append]

theorem excludedIn_append (reports others : List Report) (a : Action) :
    excludedIn (reports ++ others) a = excludedIn reports a + excludedIn others a := by
  simp only [excludedIn, List.filter_append, List.flatMap_append, List.length_append]

theorem impactedIn_singleton (r : Report) (a : Action) (s : ObjectStatus) :
    impactedIn [r] a s = if r.action = a then r.impacted.countP (·.status = s) else 0 := by
  by_cases h : r.action = a <;> simp [impactedIn, h]

theorem excludedIn_singleton (r : Report) (a : Action) :
    excludedIn [r] a = if r.action = a then r.excluded.length else 0 := by
  by_cases h : r.action = a <;> simp [excludedIn, h]

theorem Action.text_inj {a b : Action} : a.text = b.text ↔ a = b := by
  cases a <;> cases b <;> decide

theorem ObjectStatus.text_inj {s t : ObjectStatus} : s.text = t.text ↔ s = t := by
  cases s <;> cases t <;> decide

namespace Metrics

/-- Each object of a list is counted under its own status. -/
theorem value_countObjects (objects : List ImpactedObject) (series : Series) (b a : Action)
    (s : ObjectStatus) :
    (objects.foldl (fun series o => Series.count series [b.text, o.status.text] 1) series).value
        [a.text, s.text]
      = series.value [a.text, s.text]
        + if b = a then objects.countP (·.status = s) else 0 := by
  induction objects generalizing series with
  | nil => simp
  | cons o objects ih =>
      rw [List.foldl_cons, ih, Series.value_count]
      simp only [List.cons.injEq, and_true, Action.text_inj, ObjectStatus.text_inj,
        List.countP_cons, decide_eq_true_eq]
      by_cases hb : b = a <;> simp [hb]
      omega

variable (m : Metrics) (reports : List Report)

theorem value_impacted_recordReport (r : Report) (a : Action) (s : ObjectStatus) :
    (m.recordReport r).impacted.value [a.text, s.text]
      = m.impacted.value [a.text, s.text] + impactedIn [r] a s := by
  rw [impactedIn_singleton]
  exact value_countObjects r.impacted m.impacted r.action a s

theorem value_excluded_recordReport (r : Report) (a : Action) :
    (m.recordReport r).excluded.value [a.text]
      = m.excluded.value [a.text] + excludedIn [r] a := by
  rw [excludedIn_singleton]
  show (m.excluded.count [r.action.text] r.excluded.length).value [a.text] = _
  rw [Series.value_count]
  simp only [List.cons.injEq, and_true, Action.text_inj]

/-- Reports change neither the count of looks nor the gauges. -/
theorem foldl_recordReport_others :
    (reports.foldl recordReport m).reconciles = m.reconciles
      ∧ (reports.foldl recordReport m).hibernating = m.hibernating := by
  induction reports generalizing m with
  | nil => exact ⟨rfl, rfl⟩
  | cons r reports ih => exact ih (m.recordReport r)

theorem value_impacted_foldl (a : Action) (s : ObjectStatus) :
    (reports.foldl recordReport m).impacted.value [a.text, s.text]
      = m.impacted.value [a.text, s.text] + impactedIn reports a s := by
  induction reports generalizing m with
  | nil => rfl
  | cons r reports ih =>
      rw [List.foldl_cons, ih, value_impacted_recordReport, Nat.add_assoc, ← impactedIn_append]
      rfl

theorem value_excluded_foldl (a : Action) :
    (reports.foldl recordReport m).excluded.value [a.text]
      = m.excluded.value [a.text] + excludedIn reports a := by
  induction reports generalizing m with
  | nil => rfl
  | cons r reports ih =>
      rw [List.foldl_cons, ih, value_excluded_recordReport, Nat.add_assoc, ← excludedIn_append]
      rfl

end Metrics

/-! ### Failures and successes -/

namespace Controller

variable {k k' : Controller} {h : Hibernator} {t : Tick} {d : Duration}

/-- A failure that has a delay counts an error. -/
theorem handled (hhandling : k.handleError h = .ok (d, k')) :
    k'.config = k.config ∧ k'.metrics = k.metrics.recordReconcile "error" := by
  rcases k.handleError_cases h with ⟨stop, -, heq⟩ | ⟨given, backoff, -, heq⟩
  · rw [heq] at hhandling
    cases hhandling
  · rw [heq] at hhandling
    cases hhandling
    exact ⟨rfl, rfl⟩

/-- It does so beside the reports of its look. -/
theorem failed_metrics (hhandling : (k.counting t.reports).handleError h = .ok (d, k')) :
    k'.metrics
      = { t.reports.foldl Metrics.recordReport k.metrics with
          reconciles := k.metrics.reconciles.count ["error"] 1 } := by
  rw [(handled hhandling).2, ← (Metrics.foldl_recordReport_others k.metrics t.reports).1]
  rfl

/-- A success counts its outcome beside the reports, and sets the gauge if it has a status. -/
theorem succeeded_metrics :
    ((k.counting t.reports).succeeded h t).metrics
      = { t.reports.foldl Metrics.recordReport k.metrics with
          reconciles := k.metrics.reconciles.count [t.outcome.text] 1
          hibernating :=
            match t.status with
            | some s => FiniteMap.insert k.metrics.hibernating [h.name, h.namespaceName]
                s.isHibernating.toNat
            | none => k.metrics.hibernating } := by
  obtain ⟨hreconciles, hgauges⟩ := Metrics.foldl_recordReport_others k.metrics t.reports
  rw [← hreconciles, ← hgauges]
  unfold succeeded
  cases t.status with
  | none => rfl
  | some s =>
      cases hs : s.isHibernating <;>
        simp [hs, Metrics.setHibernating, Metrics.recordReconcile, counting]

end Controller

/-! ### One attempt -/

section

variable {σ : Type}

/-- The attempt is on the resource of these names. -/
def Attempt.IsOn (x : Attempt σ) (namespaceName name : String) : Prop :=
  x.resource.namespaceName = namespaceName ∧ x.resource.name = name

/-- The labels of a gauge name the resource. -/
theorem Attempt.labels_eq_iff {x : Attempt σ} {namespaceName name : String} :
    [x.resource.name, x.resource.namespaceName] = [name, namespaceName]
      ↔ x.IsOn namespaceName name := by
  simp only [IsOn, List.cons.injEq, and_true]
  exact and_comm

variable [ResourceClient σ] [ZoneDatabase]

namespace Attempt

/-- The look that an attempt takes, if its resource is not being deleted and the look comes to an
end. -/
def tick? (config : Config) (x : Attempt σ) : Option Tick :=
  if x.resource.isDeleting then none
  else (config.tick x.resource x.now x.cluster).toOption.map (·.1)

/-- The reports of the transitions that an attempt has run. -/
def reports (config : Config) (x : Attempt σ) : List Report :=
  ((x.tick? config).map Tick.reports).getD []

/-- **How an attempt can end**, and the controller behind it. -/
inductive Ends (k : Controller) (x : Attempt σ) : Verdict → Controller → Prop
  | forgotten (deleting : x.resource.isDeleting = true) :
      Ends k x .forgotten
        { k with metrics := k.metrics.forget x.resource.namespaceName x.resource.name }
  | stopped (stays : x.resource.isDeleting = false)
      (unended : x.tick? k.config = none) : Ends k x .stopped k
  | unhandled {t : Tick} {stop : Overflow} (stays : x.resource.isDeleting = false)
      (look : x.tick? k.config = some t)
      (handling : (k.counting t.reports).handleError x.resource = .error stop) :
      Ends k x (.failed (.error stop)) (k.counting t.reports)
  | failed {t : Tick} {k' : Controller} {retryAfter : Duration}
      (stays : x.resource.isDeleting = false) (look : x.tick? k.config = some t)
      (handling : (k.counting t.reports).handleError x.resource = .ok (retryAfter, k')) :
      Ends k x (.failed (.ok retryAfter)) k'
  | reconciled {t : Tick} (stays : x.resource.isDeleting = false)
      (look : x.tick? k.config = some t) :
      Ends k x .reconciled ((k.counting t.reports).succeeded x.resource t)

end Attempt

namespace Controller

variable {k : Controller} {write : StatusWriter σ} {h : Hibernator} {now : Instant} {c c' : σ}

end Controller

/-- The attempt succeeded, and a status came of its look. -/
def Shows (config : Config) (e : Attempt σ × Verdict) (s : Status) : Prop :=
  e.2 = .reconciled ∧ ∃ t, e.1.tick? config = some t ∧ t.status = some s

/-- Of the attempts on the resource of these names that succeeded with a status, `s` is the status
of the last one; and it was not found being deleted since. -/
def LastShown (config : Config) (namespaceName name : String) (es : List (Attempt σ × Verdict))
    (s : Status) : Prop :=
  ∃ before e after, es = before ++ e :: after ∧ e.1.IsOn namespaceName name ∧ Shows config e s
    ∧ ∀ y ∈ after, y.1.IsOn namespaceName name →
      y.2 ≠ .forgotten ∧ ∀ s', ¬ Shows config y s'

variable {config : Config} {namespaceName name : String} {es : List (Attempt σ × Verdict)}
  {e : Attempt σ × Verdict} {s : Status}

theorem not_lastShown_nil : ¬ LastShown (σ := σ) config namespaceName name [] s := by
  rintro ⟨before, e, after, heq, -⟩
  simp at heq

/-- One more attempt shows its own status, or leaves the one from before. -/
theorem lastShown_concat : LastShown config namespaceName name (es ++ [e]) s
    ↔ (e.1.IsOn namespaceName name ∧ Shows config e s)
      ∨ (LastShown config namespaceName name es s
        ∧ (e.1.IsOn namespaceName name → e.2 ≠ .forgotten ∧ ∀ s', ¬ Shows config e s')) := by
  constructor
  · rintro ⟨before, e', after, heq, hon, hshows, hafter⟩
    rcases List.eq_nil_or_concat' after with rfl | ⟨after, y, rfl⟩
    · obtain ⟨-, rfl⟩ := List.append_inj' heq rfl |>.imp_right List.singleton_inj.1
      exact .inl ⟨hon, hshows⟩
    · rw [← List.cons_append, ← List.append_assoc] at heq
      obtain ⟨rfl, hlast⟩ := List.append_inj' heq rfl
      obtain rfl := List.singleton_inj.1 hlast
      exact .inr ⟨⟨before, e', after, rfl, hon, hshows,
        fun y hy => hafter y (List.mem_append_left _ hy)⟩,
        hafter _ (List.mem_append_right _ List.mem_cons_self)⟩
  · rintro (⟨hon, hshows⟩ | ⟨⟨before, e', after, rfl, hon, hshows, hafter⟩, hlast⟩)
    · exact ⟨es, e, [], rfl, hon, hshows, fun y hy => nomatch hy⟩
    · refine ⟨before, e', after ++ [e], by simp, hon, hshows, fun y hy => ?_⟩
      rcases List.mem_append.1 hy with hy | hy
      · exact hafter y hy
      · rw [List.mem_singleton.1 hy]
        exact hlast

/-! ### What an attempt adds -/

namespace Attempt

variable {x : Attempt σ} {t : Tick}

theorem reports_of_look (h : x.tick? config = some t) : x.reports config = t.reports := by
  unfold reports
  rw [h]
  rfl

theorem reports_of_unended (h : x.tick? config = none) : x.reports config = [] := by
  unfold reports
  rw [h]
  rfl

theorem tick?_of_deleting (h : x.resource.isDeleting = true) : x.tick? config = none :=
  if_pos h

namespace Ends

variable {k k' : Controller} {v : Verdict}

/-- One look is counted, unless the resource was being deleted or something overflowed. -/
theorem reconciles (h : x.Ends k v k') (hk : k.metrics.reconciles.Sorted) :
    k'.metrics.reconciles.Sorted
      ∧ (FiniteMap.values k'.metrics.reconciles).sum + (if v.isOverflow then 1 else 0)
        = (FiniteMap.values k.metrics.reconciles).sum
          + (if x.resource.isDeleting then 0 else 1) := by
  cases h with
  | forgotten deleting => exact ⟨hk, by simp [deleting, Metrics.forget, Verdict.isOverflow]⟩
  | stopped stays => exact ⟨hk, by simp [stays, Verdict.isOverflow]⟩
  | @unhandled t _ stays =>
      have hothers := (Metrics.foldl_recordReport_others k.metrics t.reports).1
      rw [Controller.counting, hothers]
      exact ⟨hk, by simp [stays, Verdict.isOverflow]⟩
  | failed stays _ handling =>
      rw [Controller.failed_metrics handling]
      exact ⟨Series.sorted_count hk _ _, by simp [Series.sum_count hk, stays, Verdict.isOverflow]⟩
  | reconciled stays =>
      rw [Controller.succeeded_metrics]
      exact ⟨Series.sorted_count hk _ _, by simp [Series.sum_count hk, stays, Verdict.isOverflow]⟩

/-- The reports of the look are counted, whatever becomes of its status. -/
theorem reported (h : x.Ends k v k') :
    (∀ a s, k'.metrics.impacted.value [a.text, s.text]
      = k.metrics.impacted.value [a.text, s.text]
        + impactedIn (x.reports k.config) a s)
    ∧ ∀ a, k'.metrics.excluded.value [a.text]
      = k.metrics.excluded.value [a.text] + excludedIn (x.reports k.config) a := by
  cases h with
  | forgotten deleting =>
      rw [reports_of_unended (tick?_of_deleting deleting)]
      exact ⟨fun _ _ => rfl, fun _ => rfl⟩
  | stopped stays unended =>
      rw [reports_of_unended unended]
      exact ⟨fun _ _ => rfl, fun _ => rfl⟩
  | unhandled stays look =>
      rw [reports_of_look look]
      exact ⟨Metrics.value_impacted_foldl _ _, Metrics.value_excluded_foldl _ _⟩
  | failed stays look handling =>
      rw [reports_of_look look, Controller.failed_metrics handling]
      exact ⟨Metrics.value_impacted_foldl _ _, Metrics.value_excluded_foldl _ _⟩
  | reconciled stays look =>
      rw [reports_of_look look, Controller.succeeded_metrics]
      exact ⟨Metrics.value_impacted_foldl _ _, Metrics.value_excluded_foldl _ _⟩

/-- Of the gauges an attempt changes that of its own resource at most: it takes it away where the
resource is being deleted, and sets it where a status came of a success. -/
theorem gauge (h : x.Ends k v k') (namespaceName name : String) (n : Nat) :
    FiniteMap.find? k'.metrics.hibernating [name, namespaceName] = some n
      ↔ (x.IsOn namespaceName name
          ∧ ∃ s, Shows k.config (x, v) s ∧ n = s.isHibernating.toNat)
        ∨ (FiniteMap.find? k.metrics.hibernating [name, namespaceName] = some n
          ∧ (x.IsOn namespaceName name →
            v ≠ .forgotten ∧ ∀ s, ¬ Shows k.config (x, v) s)) := by
  have hquiet {w : Verdict} (hw : w ≠ .reconciled) (s : Status) :
      ¬ Shows k.config (x, w) s := fun hshows => hw hshows.1
  cases h with
  | forgotten deleting =>
      show FiniteMap.find? (FiniteMap.erase k.metrics.hibernating _) _ = some n ↔ _
      by_cases hon : x.IsOn namespaceName name
      · rw [labels_eq_iff.2 hon, FiniteMap.find?_erase_self]
        simp [hon, hquiet]
      · rw [FiniteMap.find?_erase_of_ne _ fun heq => hon (labels_eq_iff.1 heq)]
        simp [hon]
  | stopped => simp [hquiet]
  | unhandled =>
      rw [Controller.counting, (Metrics.foldl_recordReport_others _ _).2]
      simp [hquiet]
  | failed _ _ handling =>
      rw [Controller.failed_metrics handling, (Metrics.foldl_recordReport_others _ _).2]
      simp [hquiet]
  | @reconciled t stays look =>
      have hshows (s : Status) :
          Shows k.config (x, .reconciled) s ↔ t.status = some s := by
        simp [Shows, look]
      rw [Controller.succeeded_metrics]
      simp only [hshows]
      cases t.status with
      | none => simp
      | some s =>
          by_cases hon : x.IsOn namespaceName name
          · rw [labels_eq_iff.2 hon, FiniteMap.find?_insert_self]
            simp [hon, eq_comm]
          · rw [FiniteMap.find?_insert_of_ne _ _ fun heq => hon (labels_eq_iff.1 heq)]
            simp [hon]

end Ends
end Attempt

/-! ### What the metrics say -/

/-- What the metrics say of some attempts and their ends. -/
structure Metrics.Account (config : Config) (m : Metrics) (es : List (Attempt σ × Verdict)) :
    Prop where
  /-- The counts of looks, over all outcomes, are as many as the attempts on resources that were not
  being deleted, apart from those that an overflow ended. -/
  reconciles : (FiniteMap.values m.reconciles).sum + es.countP (fun e => e.2.isOverflow)
    = es.countP fun e => !e.1.resource.isDeleting
  /-- Each action and status counts the objects of all reports. -/
  impacted : ∀ a s, m.impacted.value [a.text, s.text]
    = impactedIn (es.flatMap fun e => e.1.reports config) a s
  excluded : ∀ a, m.excluded.value [a.text] = excludedIn (es.flatMap fun e => e.1.reports config) a
  /-- There is a gauge where some status was shown last, and it says whether that one hibernates. -/
  gauge : ∀ namespaceName name n, FiniteMap.find? m.hibernating [name, namespaceName] = some n
    ↔ ∃ s, LastShown config namespaceName name es s ∧ n = s.isHibernating.toNat

namespace Metrics.Account

theorem start (config : Config) : ({} : Metrics).Account (σ := σ) config [] where
  reconciles := rfl
  impacted _ _ := rfl
  excluded _ := rfl
  gauge _ _ _ := by simp [not_lastShown_nil]

variable {k k' : Controller} {x : Attempt σ} {v : Verdict}

/-- **Step.**  What the metrics say stays right with one more attempt. -/
theorem step (hm : k.metrics.Account k.config es)
    (hsorted : k.metrics.reconciles.Sorted) (h : x.Ends k v k') :
    k'.metrics.Account k.config (es ++ [(x, v)]) where
  reconciles := by
    have hold := hm.reconciles
    have hnew := (h.reconciles hsorted).2
    rw [List.countP_append, List.countP_append, List.countP_singleton, List.countP_singleton]
    simp only [Bool.not_eq_true']
    cases hdeleting : x.resource.isDeleting <;> simp [hdeleting] at hnew ⊢ <;> omega
  impacted a s := by
    rw [h.reported.1, hm.impacted, List.flatMap_append, impactedIn_append, List.flatMap_singleton]
  excluded a := by
    rw [h.reported.2, hm.excluded, List.flatMap_append, excludedIn_append, List.flatMap_singleton]
  gauge namespaceName name n := by
    rw [h.gauge, hm.gauge]
    simp only [lastShown_concat]
    constructor
    · rintro (⟨hon, s, hs, hn⟩ | ⟨⟨s, hs, hn⟩, hquiet⟩)
      · exact ⟨s, .inl ⟨hon, hs⟩, hn⟩
      · exact ⟨s, .inr ⟨hs, hquiet⟩, hn⟩
    · rintro ⟨s, ⟨hon, hs⟩ | ⟨hs, hquiet⟩, hn⟩
      · exact .inl ⟨hon, s, hs, hn⟩
      · exact .inr ⟨⟨s, hs, hn⟩, hquiet⟩

end Metrics.Account

namespace Controller

end Controller

end

open scoped Time.ClockHistory

end Slumber
