import Slumber.Proofs.Controller.Steps
import Slumber.Proofs.Transition.Deleted
import Slumber.Time.ClockHistory

/-!
# Deleted objects are on record

The controller deletes first and stores the status afterwards. When the status cannot be stored, the
next call starts from the old one, and what the failed call deleted is on no record. But what a call
deletes that succeeds is on record in the status that the resource has behind it.

* `Call`, `Calls` — calls of the controller that follow one another, each of which may fail to store
  the status, and finds the cluster as others left it in the meantime;
* `Acts.recorded` — what a look deletes is in the status that comes of it;
* `deletion_recorded` — the main theorem;
* `deletion_unrecorded` — what a call that fails deletes is lost.
-/

namespace Slumber

open Cluster Selection

/-! ### One look -/

section

variable [ZoneDatabase] {h : Hibernator} {now : Instant} {gap : Gap} {c c' : Cluster} {t : Tick}
  {k : ObjectKey} {m : Manifest} {newer : List Report}

/-- The reports behind a deletion leave it on record, if they add fewer revisions than are kept. -/
theorem Acts.recorded (hacts : Acts h now gap c t c')
    (hdeleting : Deleting now h.spec (h.spec.isActive gap) gap.range h.readHistory c t.reports k m
      newer) (hroom : History.added newer < h.spec.historyLimit) :
    ∃ status, t.status = some status
      ∧ ∃ e ∈ status.history, deletedRecord h.spec k m ∈ e.impacted := by
  obtain ⟨status, resync, hstatus, hhistory⟩ := hacts.entered
  obtain ⟨before, rules, c₁, report, c₂, older, -, -, -, hreports, haction, hnodup, hrecord⟩ :=
    hdeleting.deleted
  have hcapacity : h.spec.historyLimit ≤ h.readHistory.capacity := Nat.le_max_left _ _
  rw [hreports, History.enteringAll_append, History.enteringAll_cons] at hhistory
  have hentered := History.recordsWithin_entering (h.readHistory.enteringAll now resync older) now
    resync hrecord hnodup
  rw [haction] at hentered
  obtain ⟨front, e, behind, hentries, -, -, he⟩ :=
    hentered.enteringAll now resync hdeleting.others (by simp; omega)
  refine ⟨status, hstatus, e, ?_, he⟩
  rw [hhistory, hentries]
  exact List.mem_append_right _ List.mem_cons_self

end

/-! ### Calls -/

/-- A call of the controller as it went: what was asked for by then, at which instant, the cluster
that the call found, why the server did not store statuses if it did not, what came of the call, and
the cluster that it left. -/
structure Call where
  spec : Spec
  now : Instant
  before : Cluster
  fault : Option StatusFault := none
  result : Except StatusFault Reconciled
  after : Cluster

namespace Call

/-- The resource as the call finds it. -/
def found (x : Call) (h : Hibernator) : Hibernator :=
  { h with spec := x.spec }

/-- The resource behind the call: with the status that the call has written, if it has. -/
def resource (x : Call) (h : Hibernator) : Hibernator :=
  match x.result with
  | .ok r => { x.found h with status := r.written <|> h.status }
  | .error _ => x.found h

end Call

/-- The resource behind some calls. -/
def resourceAfter (h : Hibernator) (calls : List Call) : Hibernator :=
  calls.foldl (fun h x => x.resource h) h

/-- Calls of a controller on a resource, one after the other. The resource always carries the last
status that was written; in between, others may change the cluster and what is asked for. -/
inductive Calls [ZoneDatabase] : Controller → Hibernator → List Call → Prop
  | nil (k : Controller) (h : Hibernator) : Calls k h []
  | cons {k k' : Controller} {h : Hibernator} {x : Call} {rest : List Call}
      (call : k.reconcile (.answering x.fault) (x.found h) x.now x.before
        = .ok ((x.result, k'), x.after))
      (next : Calls k' (x.resource h) rest) : Calls k h (x :: rest)

/-- One of the calls is made on the resource behind the earlier ones. -/
theorem Calls.call_of_append [ZoneDatabase] {k : Controller} {h : Hibernator}
    {earlier later : List Call} {x : Call} (hcalls : Calls k h (earlier ++ x :: later)) :
    ∃ k₁ k₂, Controller.reconcile k₁ (.answering x.fault) (x.found (resourceAfter h earlier)) x.now
      x.before = .ok ((x.result, k₂), x.after) := by
  induction earlier generalizing k h with
  | nil =>
      cases hcalls with
      | cons call next => exact ⟨_, _, call⟩
  | cons y earlier ih =>
      cases hcalls with
      | cons call next => exact ih next

section

variable {k k' : Controller} {h : Hibernator} {x : Call} {r : Reconciled} {t : Tick}

/-- Behind a call that succeeds the resource has the status that came of the look. -/
theorem Call.status_resource (hok : x.result = .ok r)
    (hwritten : r.written = t.status.filter fun s => (x.found h).status ≠ some s)
    {status : Status} (hstatus : t.status = some status) :
    (x.resource h).status = some status := by
  have hsame : (x.found h).status = h.status := rfl
  unfold resource
  rw [hok]
  dsimp only
  rw [hwritten, hstatus, Option.filter_some, hsame]
  by_cases hchanged : h.status = some status
  · rw [if_neg (by simpa using hchanged)]
    exact hchanged
  · rw [if_pos (by simpa using hchanged)]
    rfl

/-- **Deletions are on record.**  Take calls of the controller on a resource that always carries the
last status that was written, while storing the status fails in some of the calls, and while in
between others change the cluster and what is asked for. If an object disappears from a keyed
cluster in a call that succeeds, and manifests are to be kept, then a group of rules deleted it in
that call, and the status that the resource carries behind the call has the manifest that the object
had until then, if fewer revisions were added behind the deletion than the history holds. -/
theorem deletion_recorded [ZoneDatabase] {earlier later : List Call}
    (hcalls : Calls k h (earlier ++ x :: later)) (hc : x.before.Keyed)
    (hstore : x.spec.storeDeleted = true) (hok : x.result = .ok r) {key : ObjectKey}
    {m₀ : Manifest} (hheld : x.before.object? key = some m₀) (hgone : x.after.object? key = none) :
    ∃ gap t m newer, Acts (x.found (resourceAfter h earlier)) x.now gap x.before t x.after
      ∧ Deleting x.now x.spec (x.spec.isActive gap) gap.range
          (x.found (resourceAfter h earlier)).readHistory x.before t.reports key m newer
      ∧ (History.added newer < x.spec.historyLimit →
          ∃ status, (resourceAfter h (earlier ++ [x])).status = some status
            ∧ ∃ e ∈ status.history, ∃ o ∈ e.impacted,
              o.key = key.text ∧ o.deleted = m.document.render) := by
  obtain ⟨k₁, k₂, hcall⟩ := hcalls.call_of_append
  have hsame : x.after ≠ x.before := by
    intro heq
    rw [heq, hheld] at hgone
    cases hgone
  rcases Controller.reconcile_cases hcall with ⟨-, heq, -⟩ | ⟨t, htick, hwritten⟩
  · exact absurd heq hsame
  obtain ⟨floor, -, htick⟩ := Config.tick_eq_ok.1 htick
  rcases tick_cases htick with hrests | ⟨gap, hacts⟩
  · exact absurd hrests.cluster_eq hsame
  obtain ⟨m, newer, hdeleting⟩ := execute_deleted hc hacts.executed hheld hgone
  refine ⟨gap, t, m, newer, hacts, hdeleting, fun hroom => ?_⟩
  obtain ⟨status, hstatus, e, he, hrecord⟩ := hacts.recorded hdeleting hroom
  refine ⟨status, ?_, e, he, _, hrecord, rfl, ?_⟩
  · rw [resourceAfter, List.foldl_append]
    exact Call.status_resource hok (hwritten r hok) hstatus
  · rw [deletedRecord, if_pos]
    exact hstore

end

/-! ### Instances -/

open scoped Time.ClockHistory

/-- What deletes a workload and keeps its manifest. -/
def disposal : Spec :=
  { rules := [{ inclusions := [⟨{ type := "deployment", name := "web" }, { name := "shop" }⟩] }]
    action := .delete
    storeDeleted := true
    forceActive := true }

/-- A resource that asks for it. -/
def disposer : Hibernator :=
  { namespaceName := "ops", name := "nights", spec := disposal }

/-- A server that is not to be reached. -/
def unreachable : StatusFault :=
  ⟨"ops/nights", .other "connection refused"⟩

/-- A call that makes an object disappear, as `deletion_recorded` speaks of it. -/
structure Disposing (k : Controller) (h : Hibernator) (earlier : List Call) (x : Call)
    (later : List Call) (m : Manifest) : Prop where
  calls : Calls k h (earlier ++ x :: later)
  keyed : x.before.Keyed
  stores : x.spec.storeDeleted = true
  held : x.before.object? m.key = some m
  gone : x.after.object? m.key = none

/-- A call at an instant, which the server may refuse to store the status of, and the controller
behind it. -/
def callAt (k : Controller) (h : Hibernator) (now : Instant) (fault : Option StatusFault)
    (c : Cluster) : Option (Call × Controller) :=
  match k.reconcile (.answering fault) h now c with
  | .ok ((result, k'), after) => some (⟨h.spec, now, c, fault, result, after⟩, k')
  | .error _ => none

theorem callAt_eq_some {k k' : Controller} {h : Hibernator} {now : Instant}
    {fault : Option StatusFault} {c : Cluster} {x : Call}
    (hcall : callAt k h now fault c = some (x, k')) :
    x.spec = h.spec ∧ x.before = c
      ∧ k.reconcile (.answering x.fault) (x.found h) x.now x.before
        = .ok ((x.result, k'), x.after) := by
  unfold callAt at hcall
  split at hcall
  · rename_i hreconciled
    cases hcall
    exact ⟨rfl, rfl, hreconciled⟩
  · cases hcall

/-- What a call that succeeds gives. -/
def Call.reconciled? (x : Call) : Option Reconciled :=
  x.result.toOption

theorem Call.result_of_reconciled? {x : Call} {r : Reconciled} (hr : x.reconciled? = some r) :
    x.result = .ok r := by
  unfold Call.reconciled? at hr
  cases hresult : x.result with
  | error fault =>
      rw [hresult] at hr
      cases hr
  | ok r' =>
      rw [hresult] at hr
      cases hr
      rfl

/-- The workload is deleted in a call that succeeds, and its manifest is on record. -/
theorem deletion_recorded_workload :
    ∃ x r, Disposing (.ofConfig {}) disposer [] x [] sampleWorkload ∧ x.result = .ok r
      ∧ ∃ status, (resourceAfter disposer [x]).status = some status
        ∧ ∃ e ∈ status.history, ∃ o ∈ e.impacted, o.key = sampleWorkload.key.text
          ∧ o.deleted = sampleWorkload.document.render := by
  have hcheck : ((callAt (.ofConfig {}) disposer ⟨0, 0⟩ none sampleCluster).any fun p =>
      p.1.reconciled?.any fun _ => p.1.after.object? sampleWorkload.key == none) = true := by
    decide +kernel
  obtain ⟨⟨x, k'⟩, hcall, hreconciled⟩ := (Option.any_eq_true _ _).1 hcheck
  obtain ⟨r, hr, hgone⟩ := (Option.any_eq_true _ _).1 hreconciled
  obtain ⟨hspec, hbefore, hcall⟩ := callAt_eq_some hcall
  have hresult := Call.result_of_reconciled? hr
  have hdisposing : Disposing (.ofConfig {}) disposer [] x [] sampleWorkload := by
    refine ⟨.cons hcall (.nil _ _), ?_, ?_, ?_, by simpa using hgone⟩
    · rw [hbefore]
      exact sampleCluster_keyed
    · rw [hspec]
      rfl
    · rw [hbefore]
      exact object?_sampleWorkload _ List.mem_cons_self
  obtain ⟨gap, t, m, newer, hacts, hdeleting, hrecorded⟩ :=
    deletion_recorded hdisposing.calls hdisposing.keyed hdisposing.stores hresult hdisposing.held
      hdisposing.gone
  have hsingle : ruleGroups x.spec = [(.delete, disposal.rules)] := by
    rw [hspec]
    decide
  obtain ⟨before, rules, c₁, report, c₂, older, hgroup, hfound, -, hreports, -⟩ :=
    hdeleting.deleted
  obtain ⟨-, -, -, rfl⟩ := hgroup.of_single hsingle
  obtain rfl : m = sampleWorkload := by
    rw [hdisposing.held, Option.some.injEq] at hfound
    exact hfound.symm
  -- Nothing was reported behind the one group.
  obtain rfl : newer = [] := by
    have hlength := executeGroups_length_le hacts.executed
    rw [hreports, show ruleGroups (x.found _).spec = [(.delete, disposal.rules)] from hsingle]
      at hlength
    refine List.eq_nil_of_length_eq_zero ?_
    rw [List.length_append, List.length_cons, List.length_singleton] at hlength
    omega
  exact ⟨x, r, hdisposing, hresult, hrecorded (Spec.historyLimit_pos _)⟩

/-- A pod. -/
def podIn (namespaceName name : String) : Manifest :=
  ⟨.obj
    [("apiVersion", .str "v1"), ("kind", .str "Pod"),
     ("metadata", .obj [("name", .str name), ("namespace", .str namespaceName)])]⟩

/-- What deletes the pods of two namespaces, one of which is named like the path of a pod in the
other. -/
def podDisposal : Spec :=
  { disposal with
    rules :=
      [{ inclusions :=
          [⟨{ type := "pod" }, { name := "a" }⟩, ⟨{ type := "pod" }, { name := "a//v1/Pod" }⟩] }] }

/-- A cluster with two pods whose keys have the same text. -/
def twinCluster : Cluster :=
  { Cluster.standard with
    objects := [podIn "a" "/v1/Pod/x", podIn "a//v1/Pod" "x"].map fun m => (m.key, m) }

/-- A resource that has deleted objects before. -/
def twinDisposer : Hibernator :=
  { disposer with
    spec := podDisposal
    status := some { history := [⟨⟨0, 0⟩, 0, .delete, [], []⟩], action := some .delete } }

/-- **Deletions on no record.**  The workload is deleted in a call that cannot store the status, and
the status that the next call writes has no revision at all. Also, in a cluster in which two keys
have the same text, a call that succeeds leaves one of two deleted objects unrecorded. -/
theorem deletion_unrecorded :
    (∃ x y r status, Calls (.ofConfig {}) disposer [x, y] ∧ x.before.Keyed ∧ y.before = x.after
      ∧ x.spec = disposal ∧ y.spec = disposal
      ∧ x.before.object? sampleWorkload.key = some sampleWorkload
      ∧ x.after.object? sampleWorkload.key = none
      ∧ x.result = .error unreachable
      ∧ y.result = .ok r ∧ r.written = some status ∧ status.history = [])
    ∧ ∃ x r, Calls (.ofConfig {}) twinDisposer [x] ∧ x.before = twinCluster
      ∧ x.spec = podDisposal ∧ x.result = .ok r
      ∧ ∃ p ∈ x.before.objects, x.after.object? p.1 = none
        ∧ ∃ status, r.written = some status
          ∧ ∀ e ∈ status.history, ∀ o ∈ e.impacted, o.deleted ≠ p.2.document.render := by
  constructor
  · have hcheck : ((callAt (.ofConfig {}) disposer ⟨0, 0⟩ (some unreachable) sampleCluster).any
        fun p => decide (p.1.result = .error unreachable
          ∧ p.1.after.object? sampleWorkload.key = none)
        && (callAt p.2 (p.1.resource disposer) ⟨3600, 0⟩ none p.1.after).any fun q =>
          q.1.reconciled?.any fun r => r.written.any (·.history == [])) = true := by
      decide +kernel
    obtain ⟨⟨x, k'⟩, hcall, hx⟩ := (Option.any_eq_true _ _).1 hcheck
    rw [Bool.and_eq_true, decide_eq_true_eq] at hx
    obtain ⟨⟨hresult, hgone⟩, hnext⟩ := hx
    obtain ⟨⟨y, k''⟩, hcall', hreconciled⟩ := (Option.any_eq_true _ _).1 hnext
    obtain ⟨r, hr, hwritten⟩ := (Option.any_eq_true _ _).1 hreconciled
    obtain ⟨status, hstatus, hhistory⟩ := (Option.any_eq_true _ _).1 hwritten
    obtain ⟨hspec, hbefore, hcall⟩ := callAt_eq_some hcall
    obtain ⟨hspec', hbefore', hcall'⟩ := callAt_eq_some hcall'
    have hresource : x.resource disposer = x.found disposer := by
      unfold Call.resource
      rw [hresult]
    refine ⟨x, y, r, status, .cons hcall (.cons hcall' (.nil _ _)), ?_, hbefore', hspec, ?_, ?_,
      hgone, hresult, Call.result_of_reconciled? hr, hstatus, by simpa using hhistory⟩
    · rw [hbefore]
      exact sampleCluster_keyed
    · rw [hspec', hresource]
      exact hspec
    · rw [hbefore]
      exact object?_sampleWorkload _ List.mem_cons_self
  · have hcheck : ((callAt (.ofConfig {}) twinDisposer ⟨3600, 0⟩ none twinCluster).any fun p =>
        p.1.reconciled?.any fun r =>
          twinCluster.objects.any fun held => p.1.after.object? held.1 == none
            && r.written.any fun status => status.history.all fun e => e.impacted.all fun o =>
              o.deleted != held.2.document.render) = true := by decide +kernel
    obtain ⟨⟨x, k'⟩, hcall, hreconciled⟩ := (Option.any_eq_true _ _).1 hcheck
    obtain ⟨r, hr, hany⟩ := (Option.any_eq_true _ _).1 hreconciled
    obtain ⟨held, hheld, hlost⟩ := List.any_eq_true.1 hany
    rw [Bool.and_eq_true, beq_iff_eq] at hlost
    obtain ⟨status, hstatus, hall⟩ := (Option.any_eq_true _ _).1 hlost.2
    obtain ⟨hspec, hbefore, hcall⟩ := callAt_eq_some hcall
    refine ⟨x, r, .cons hcall (.nil _ _), hbefore, hspec, Call.result_of_reconciled? hr, held, ?_,
      hlost.1, status, hstatus, fun e he o ho => ?_⟩
    · rw [hbefore]
      exact hheld
    · simpa using List.all_eq_true.1 (List.all_eq_true.1 hall e he) o ho

end Slumber
