import Slumber.Proofs.Controller.Steps
import Slumber.Proofs.Spec.Persistence
import Slumber.Status.Document
import Slumber.Time.ClockHistory

/-!
# Statuses survive being stored

What was written of a status reads as that status, provided that the texts of its times read as
those times; all other parts need no such condition. So a resource that is read from where it was
stored has the status that was written, and a look that comes to the same status again writes
nothing.

* `Instant.ReadsBack`, `Status.TimesReadBack` — the condition on times;
* `Status.ofJson?_toJson` — a status comes back;
* `Controller.reconcile_unchanged` — a status that came back is not written a second time;
* `persistence` — the main theorem, of specs and statuses.
-/

namespace Slumber

open Json Record

theorem ObjectStatus.ofJson?_text (s : ObjectStatus) : ofJson? (.str s.text) = some s := by
  cases s <;> decide

theorem State.ofJson?_text (s : State) : ofJson? (.str s.text) = some s := by
  cases s <;> decide

theorem ImpactedObject.ofJson?_toJson (o : ImpactedObject) : ofJson? o.toJson = some o := by
  simp [ofJson?, toJson, part?_eq, partOr_eq, o.status.ofJson?_text]

theorem ExcludedObject.ofJson?_toJson (o : ExcludedObject) : ofJson? o.toJson = some o := by
  simp [ofJson?, toJson, part?_eq, partOr_eq]

/-- The text of an instant reads as that instant. -/
def Instant.ReadsBack (t : Instant) : Prop :=
  readRelaxed? t.text = some t

theorem Revision.ofJson?_toJson {r : Revision} (htime : r.time.ReadsBack) :
    ofJson? r.toJson = some r := by
  have hread : Instant.readRelaxed? r.time.text = some r.time := htime
  have himpacted := list?_map fun o (_ : o ∈ r.impacted) => o.ofJson?_toJson
  have hexcluded := list?_map fun o (_ : o ∈ r.excluded) => o.ofJson?_toJson
  simp [ofJson?, toJson, part?_eq, partOr_eq, hread, r.action.ofJson?_toJson, himpacted, hexcluded]

/-- The times of a status read back. -/
def Status.TimesReadBack (s : Status) : Prop :=
  ∀ r ∈ s.history, r.time.ReadsBack

theorem Status.ofJson?_toJson {s : Status} (htimes : s.TimesReadBack) :
    ofJson? s.toJson = some s := by
  have hhistory := list?_map fun r hr => Revision.ofJson?_toJson (htimes r hr)
  simp [ofJson?, toJson, partOr_eq, s.state.ofJson?_text, hhistory, Action.elim_ifSome]

/-- A look that comes to the status that the resource has writes nothing. -/
theorem Controller.reconcile_unchanged {σ : Type} [ResourceClient σ] [ZoneDatabase]
    {k : Controller} {write : StatusWriter σ} {h : Hibernator} {now : Instant} {c c' : σ} {t : Tick}
    {s : Status} (hstatus : h.status = some s) (hdeleting : h.isDeleting = false)
    (hlook : k.config.tick h now c = .ok (t, c')) (ht : t.status = some s) :
    ∃ k', k.reconcile write h now c = .ok ((.ok ⟨none, t.requeueAfter⟩, k'), c') := by
  have htick : k.tick h now c = .ok ((t, k.counting t.reports), c') :=
    Run.bind_of_ok hlook
  have hsame : (t.status.filter fun s => h.status ≠ some s) = none := by
    rw [ht, hstatus]
    simp
  refine ⟨(k.counting t.reports).succeeded h t, ?_⟩
  unfold reconcile
  rw [hdeleting, if_neg Bool.false_ne_true, Run.bind_of_ok htick]
  dsimp only
  rw [hsame]
  rfl

/-- **Specs and statuses survive being stored.**  Every spec, and every status whose times read
back, reads from its written form as it was written; so what was read from any document is read from
its own written form too. A resource whose status was read back from the written form of a status
gets no new status from a look that comes to that status again. -/
theorem persistence :
    (∀ s : Spec, Spec.ofJson? s.toJson = some s)
    ∧ (∀ s : Status, s.TimesReadBack → Status.ofJson? s.toJson = some s)
    ∧ (∀ (j : Json) (s : Spec), Spec.ofJson? j = some s →
        Spec.ofJson? s.toJson = Spec.ofJson? j)
    ∧ (∀ (j : Json) (s : Status), Status.ofJson? j = some s → s.TimesReadBack →
        Status.ofJson? s.toJson = Status.ofJson? j)
    ∧ ∀ {σ : Type} [ResourceClient σ] [ZoneDatabase] (k : Controller) (write : StatusWriter σ)
        (h : Hibernator) (now : Instant) (c c' : σ) (t : Tick) (s : Status), s.TimesReadBack →
        h.status = Status.ofJson? s.toJson → h.isDeleting = false →
        k.config.tick h now c = .ok (t, c') → t.status = some s →
        ∃ k', k.reconcile write h now c = .ok ((.ok ⟨none, t.requeueAfter⟩, k'), c') := by
  refine ⟨Spec.ofJson?_toJson, fun s => Status.ofJson?_toJson, fun j s hread => ?_,
    fun j s hread htimes => ?_, fun k write h now c c' t s htimes hstored hdeleting hlook ht => ?_⟩
  · rw [hread, Spec.ofJson?_toJson]
  · rw [hread, Status.ofJson?_toJson htimes]
  · rw [Status.ofJson?_toJson htimes] at hstored
    exact Controller.reconcile_unchanged hstored hdeleting hlook ht

open scoped Time.ClockHistory

/-- The status of a resource that slept once and then got a schedule in an unknown zone. -/
def unscheduledStatus : Status where
  history := [{
    time := ⟨1704067200, 500000000⟩
    id := 0
    action := .hibernate
    impacted := [{ key := "/prod/apps/v1/Deployment/api", countBefore := 3 }] }]
  state := .failed
  message := "invalid schedule: invalid time zone \"Mars: failed to parse timezone\""
  isHibernating := true
  action := some .hibernate

/-- A resource with that schedule, as it is read from where it was stored. -/
def unscheduledResource : Hibernator where
  namespaceName := "prod"
  name := "nightly"
  spec := { schedule := { zone := "Mars" }, targetReplicas := [1] }
  status := Status.ofJson? unscheduledStatus.toJson

theorem unscheduledStatus_timesReadBack : unscheduledStatus.TimesReadBack := by
  unfold Status.TimesReadBack Instant.ReadsBack
  decide +kernel

theorem persistence_unscheduled :
    Spec.ofJson? unscheduledResource.spec.toJson = some unscheduledResource.spec
    ∧ Status.ofJson? unscheduledStatus.toJson = some unscheduledStatus
    ∧ Spec.ofJson? (.obj [("action", .str "sleep")]) = some {}
    ∧ Spec.ofJson? (Spec.toJson {}) = Spec.ofJson? (.obj [("action", .str "sleep")])
    ∧ Status.ofJson? (.obj [("status", .str "")]) = some {}
    ∧ Status.ofJson? (Status.toJson {}) = Status.ofJson? (.obj [("status", .str "")])
    ∧ ∃ k', (Controller.ofConfig {}).reconcile (σ := Cluster) (.answering none) unscheduledResource
        ⟨1704070800, 0⟩ {} = .ok ((.ok ⟨none, none⟩, k'), {}) := by
  have hspec : Spec.ofJson? (.obj [("action", .str "sleep")]) = some {} := by decide +kernel
  have hstatus : Status.ofJson? (.obj [("status", .str "")]) = some {} := by decide +kernel
  have hlook : ({} : Config).tick unscheduledResource ⟨1704070800, 0⟩ ({} : Cluster)
      = .ok (⟨.scheduleError, some unscheduledStatus, none, []⟩, {}) := by
    with_unfolding_all rfl
  exact ⟨persistence.1 _, persistence.2.1 _ unscheduledStatus_timesReadBack, hspec,
    persistence.2.2.1 _ _ hspec, hstatus, persistence.2.2.2.1 _ _ hstatus (fun _ hr => nomatch hr),
    persistence.2.2.2.2 (.ofConfig {}) (.answering none) unscheduledResource _ _ _ _ _
      unscheduledStatus_timesReadBack rfl rfl hlook rfl⟩

end Slumber
