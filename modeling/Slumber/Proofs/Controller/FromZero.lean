import Slumber.Proofs.Controller.Chain
import Slumber.Proofs.Controller.Unattended
import Slumber.Proofs.Transition.FromZero
import Slumber.Time.ClockHistory

/-!
# Scaling up objects that had no replicas

A schedule can scale an object up that had no replicas when it was first looked at. Behind the
window the look wakes objects up, but for this one no number is known that could be restored. So it
is left as the last transition made of it that scaled it, and is reported as excluded, look after
look.

* `Turn.Runs`, `Journal` — the transitions that looks ran, in their order;
* `LastSet` — the number of replicas that the last one of them set;
* `Undisturbed` — nobody else writes to the cluster;
* `Turn.fromZero`, `Journal.fromZero` — one look, and any number of looks;
* `raised_stays` — the main theorem;
* `raised_not_undone` — an object that a window leaves running.
-/

namespace Slumber

open Cluster Manifest

variable {floor : Duration} {h : Hibernator} {x : Turn} {turns : List Turn} {k : ObjectKey}
  {c₀ c c' : Cluster} {count : Option Int}

/-! ### The transitions of looks -/

/-- The transitions that a look ran, one after the other; a look that rested ran none. -/
inductive Turn.Runs [ZoneDatabase] (h : Hibernator) (x : Turn) : List Pass → Prop
  | rests (hrests : Rests (x.found h) x.before x.tick x.after) : Runs h x []
  | acts {gap : Gap} {passes : List Pass} (hgap : x.spec.schedule.gapAt x.now = .ok gap)
      (hpasses : Passes x.now x.spec (x.spec.isActive gap) gap.range (x.found h).readHistory
        x.before (ruleGroups x.spec) passes x.after)
      (hreports : passes.map (·.report) = x.tick.reports) : Runs h x passes

/-- The transitions that looks at a resource ran, each with the instant of its look. -/
inductive Journal [ZoneDatabase] : Hibernator → List Turn → List (Instant × Pass) → Prop
  | nil (h : Hibernator) : Journal h [] []
  | cons {h : Hibernator} {x : Turn} {rest : List Turn} {passes : List Pass}
      {log : List (Instant × Pass)} (hruns : x.Runs h passes)
      (hrest : Journal (x.resource h) rest log) :
      Journal h (x :: rest) (passes.map (x.now, ·) ++ log)

/-- From a number of replicas on, the number that the last transition left the object of a key with
that set it; none after a deletion. -/
inductive LastSet (k : ObjectKey) : Option Int → List (Instant × Pass) → Option Int → Prop
  | nil (count : Option Int) : LastSet k count [] count
  | sets {count new last : Option Int} {now : Instant} {p : Pass} {log : List (Instant × Pass)}
      (hsets : p.Sets now k new) (hrest : LastSet k new log last) :
      LastSet k count ((now, p) :: log) last
  | leaves {count last : Option Int} {now : Instant} {p : Pass} {log : List (Instant × Pass)}
      (hnot : ∀ new, ¬ p.Sets now k new) (hrest : LastSet k count log last) :
      LastSet k count ((now, p) :: log) last

theorem LastSet.append {count' count'' : Option Int} {log log' : List (Instant × Pass)}
    (hlog : LastSet k count log count') (hlog' : LastSet k count' log' count'') :
    LastSet k count (log ++ log') count'' := by
  induction hlog with
  | nil => exact hlog'
  | sets hsets _ ih => exact .sets hsets (ih hlog')
  | leaves hnot _ ih => exact .leaves hnot (ih hlog')

/-- Nobody else writes to the cluster: each look finds it as the look before left it. -/
inductive Undisturbed : Cluster → List Turn → Prop
  | nil (c : Cluster) : Undisturbed c []
  | cons {c : Cluster} {x : Turn} {rest : List Turn} (found : x.before = c)
      (next : Undisturbed x.after rest) : Undisturbed c (x :: rest)

/-! ### One execution -/

/-- What a transition that does not resize containers resolves to does not resize them. -/
theorem Transition.keepsResources_of_resolve {action : Action} {isActive : Bool} {s : Spec}
    {range : Option Nat} {t : Transition} (hs : s.targetResources = [])
    (ht : resolve action isActive s range = some t) : t.KeepsResources := by
  have hnone : pick? s.targetResources range = none := by
    rw [hs]
    cases range <;> rfl
  cases action <;> cases isActive <;> cases ht <;> trivial

/-- Between two transitions, in a cluster that was `c₀` in the beginning: some of its objects are
left, and the one of a key is gone, or has this number of replicas and had none at first. -/
structure RaisedTo (c₀ : Cluster) (k : ObjectKey) (count : Option Int) (c : Cluster) : Prop where
  keyed : c.Keyed
  dwindled : Dwindled c₀ c
  counted : c.CountedFromZero k count

section

variable {now : Instant} {s : Spec} {isActive : Bool} {range : Option Nat} {hist : History}
  {groups : List (Action × List Rule)} {passes : List Pass}

/-- **One execution.**  The object has the number of replicas that the last transition gave it. -/
theorem Passes.fromZero (hpasses : Passes now s isActive range hist c groups passes c')
    (hc₀ : c₀.Keyed) (hnone : ∀ ns, c₀.autoscalersIn ns = []) (hstored : c₀.object? k ≠ none)
    (hs : s.targetResources = []) (hhist : Records hist.entries (ImpactedObject.Gives k 0))
    (hraised : RaisedTo c₀ k count c) :
    (∀ p ∈ passes, (∀ i ∈ p.report.impacted, i.Gives k 0) ∧ p.LeavesUnknown now k)
      ∧ ∃ new, RaisedTo c₀ k new c' ∧ LastSet k count (passes.map (now, ·)) new := by
  induction hpasses generalizing count with
  | nil c => exact ⟨fun p hp => (nomatch hp), count, hraised, .nil count⟩
  | skip _ _ ih => exact ih hraised
  | @cons c c₁ c' action rules t report groups passes hresolves hgroup _ ih =>
      let p : Pass := ⟨action, rules, t, c, report, c₁⟩
      have hp : p.StartedAt now s hist c₀ := ⟨hraised.keyed, hraised.dwindled, hgroup⟩
      have htreats := hp.treatsFromZero hc₀ hnone hstored
        (Transition.keepsResources_of_resolve hs hresolves) hhist hraised.counted
      obtain ⟨new, hnew, hset⟩ := htreats.counted
      have hraised' : RaisedTo c₀ k new c₁ := ⟨executeGroup_keyed hraised.keyed hgroup,
        hraised.dwindled.trans (executeGroup_dwindled hraised.keyed hgroup), hnew⟩
      obtain ⟨hothers, last, hlast, hlog⟩ := ih hraised'
      refine ⟨fun q hq => ?_, last, hlast, ?_⟩
      · rcases List.mem_cons.1 hq with rfl | hq
        · exact ⟨htreats.reported, htreats.woken⟩
        · exact hothers q hq
      · rcases hset with hset | ⟨rfl, hnot⟩
        · exact .sets hset hlog
        · exact .leaves hnot hlog

end

/-! ### Looks -/

section

variable [ZoneDatabase]

/-- **One look.**  It leaves the object with the number of replicas that the last of its transitions
gave it, and records nothing else of it but that it had none. -/
theorem Turn.fromZero (hc₀ : c₀.Keyed) (hnone : ∀ ns, c₀.autoscalersIn ns = [])
    (hstored : c₀.object? k ≠ none)
    (hlook : Slumber.tick (x.found h) floor x.now x.before = .ok (x.tick, x.after))
    (hs : x.spec.targetResources = []) (hhist : Records h.history (ImpactedObject.Gives k 0))
    (hraised : RaisedTo c₀ k count x.before) :
    Records (x.resource h).history (ImpactedObject.Gives k 0)
      ∧ ∃ passes new, x.Runs h passes ∧ (∀ p ∈ passes, p.LeavesUnknown x.now k)
        ∧ RaisedTo c₀ k new x.after ∧ LastSet k count (passes.map (x.now, ·)) new := by
  rcases tick_cases hlook with hrests | ⟨gap, hacts⟩
  · have hnothing : ∀ r ∈ x.tick.reports, ∀ o ∈ r.impacted, ImpactedObject.Gives k 0 o := by
      rw [hrests.reports_eq]
      exact fun r hr => (nomatch hr)
    refine ⟨hhist.resource hlook hnothing, [], count, .rests hrests, fun p hp => (nomatch hp),
      ?_, .nil count⟩
    rw [hrests.cluster_eq]
    exact hraised
  · obtain ⟨passes, hpasses, hreports⟩ := executeGroups_eq_ok_iff.1 hacts.executed
    obtain ⟨hall, new, hnew, hlog⟩ :=
      hpasses.fromZero hc₀ hnone hstored hs (hhist.ofEntries _) hraised
    have hright : ∀ r ∈ x.tick.reports, ∀ o ∈ r.impacted, ImpactedObject.Gives k 0 o := by
      intro r hr
      rw [← hreports] at hr
      obtain ⟨p, hp, rfl⟩ := List.mem_map.1 hr
      exact (hall p hp).1
    exact ⟨hhist.resource hlook hright, passes, new, .acts hacts.gap_eq hpasses hreports,
      fun p hp => (hall p hp).2, hnew, hlog⟩

/-- **Any number of looks.** -/
theorem exists_journal_fromZero (hc₀ : c₀.Keyed) (hnone : ∀ ns, c₀.autoscalersIn ns = [])
    (hstored : c₀.object? k ≠ none) (hturns : Turns floor h turns) (halone : Undisturbed c turns)
    (hs : ∀ x ∈ turns, x.spec.targetResources = [])
    (hhist : Records h.history (ImpactedObject.Gives k 0)) (hraised : RaisedTo c₀ k count c) :
    ∃ log new, Journal h turns log ∧ (∀ e ∈ log, e.2.LeavesUnknown e.1 k)
      ∧ RaisedTo c₀ k new (leftBy c turns) ∧ LastSet k count log new := by
  induction turns generalizing h c count with
  | nil => exact ⟨[], count, .nil h, fun e he => (nomatch he), hraised, .nil count⟩
  | cons x rest ih =>
      cases hturns with
      | cons hlook hnext =>
      cases halone with
      | cons hfound halone' =>
      subst hfound
      obtain ⟨hhist', passes, new, hruns, hleaves, hraised', hlog⟩ :=
        Turn.fromZero hc₀ hnone hstored hlook (hs x List.mem_cons_self) hhist hraised
      obtain ⟨log, last, hjournal, hleaves', hlast, hlog'⟩ := ih hnext halone'
        (fun y hy => hs y (List.mem_cons_of_mem x hy)) hhist' hraised'
      refine ⟨passes.map (x.now, ·) ++ log, last, .cons hruns hjournal, fun e he => ?_, hlast,
        hlog.append hlog'⟩
      rcases List.mem_append.1 he with he | he
      · obtain ⟨p, hp, rfl⟩ := List.mem_map.1 he
        exact hleaves p hp
      · exact hleaves' e he

/-- **What was raised stays.**  On a keyed cluster without autoscalers let an object have no
replicas and no annotation. Let looks at a new resource follow one another, their statuses all
stored, while nobody else writes, with any rules and actions but without resources for containers.
Then the object has the number of replicas that the last transition set that put it to sleep or
scaled it, or none as in the beginning; it is gone if the last one deleted it. No transition that
wakes objects up changes anything of it: whenever one selects it, the object is left as it is, and
excluded because its number from before is not known. -/
theorem raised_stays {m : Manifest} (hc : c.Keyed) (hnone : ∀ ns, c.autoscalersIn ns = [])
    (hfresh : h.status = none) (hturns : Turns floor h turns) (halone : Undisturbed c turns)
    (hresources : ∀ x ∈ turns, x.spec.targetResources = [])
    (hm : c.object? k = some m) (hzero : m.replicaCount? = some 0)
    (hplain : m.annotation? replicasAnnotationKey = none) :
    ∃ log, Journal h turns log ∧ (∀ e ∈ log, e.2.LeavesUnknown e.1 k)
      ∧ LastSet k (some 0) log ((leftBy c turns).countAt k) := by
  have hkeeps : m.Keeps 0 := IsAwake.keeps ⟨hplain, hzero⟩
  have hhist : Records h.history (ImpactedObject.Gives k 0) := by
    unfold Hibernator.history
    rw [hfresh]
    exact Records.nil _
  have hstored : c.object? k ≠ none := by
    rw [hm]
    exact Option.some_ne_none m
  have hraised : RaisedTo c k (some 0) c := ⟨hc, .refl c, m, hm, hkeeps, hzero⟩
  obtain ⟨log, new, hjournal, hleaves, hraised', hlog⟩ :=
    exists_journal_fromZero hc hnone hstored hturns halone hresources hhist hraised
  rw [hraised'.counted.countAt_eq]
  exact ⟨log, hjournal, hleaves, hlog⟩

end

/-! ### Instances -/

open scoped Time.ClockHistory

/-- A workload that has no replicas. -/
def idleWorkload : Manifest :=
  ⟨.obj
    [("apiVersion", .str "apps/v1"), ("kind", .str "Deployment"),
     ("metadata", .obj [("name", .str "web"), ("namespace", .str "prod")]),
     ("spec", .obj [("replicas", .int 0)])]⟩

/-- Three replicas during office hours. -/
def raising : Spec :=
  { schedule := officeHours, rules := [everyWorkload], action := .scale, targetReplicas := [3] }

/-- A new resource that asks for them. -/
def raiser : Hibernator :=
  { namespaceName := "ops", name := "days", spec := raising }

/-- A Monday morning, and the evening. -/
def workday : List (Spec × Instant) :=
  [(raising, ⟨1704103200, 0⟩), (raising, ⟨1704132000, 0⟩)]

theorem undisturbed_of_takeTurns {plan : List (Spec × Instant)}
    (hrun : takeTurns floor (plan.map fun p => (p.1, p.2, id)) h c = some turns) :
    Undisturbed c turns := by
  induction plan generalizing h c turns with
  | nil =>
      cases hrun
      exact .nil c
  | cons p plan ih =>
      obtain ⟨x, rest, rfl, hbefore, -, hrest⟩ := takeTurns_cons hrun
      exact .cons hbefore (ih hrest)

/-- Looks at a workload without replicas. The evening wakes objects up, and excludes the workload
because its number from before is not known. -/
structure IsWorkday (morning evening : Turn) : Prop where
  turns : Turns ⟨61, 0⟩ raiser [morning, evening]
  alone : Undisturbed (clusterOf [idleWorkload]) [morning, evening]
  same : ∀ x ∈ [morning, evening], x.spec = raising
  woken : ∃ r ∈ evening.tick.reports, r.action = .unhibernate
    ∧ ⟨idleWorkload.key.text, unknownCountBefore⟩ ∈ r.excluded
  raised : evening.after.countAt idleWorkload.key = some 3

/-- What is to be seen of the two looks. -/
def isWorkday : List Turn → Bool
  | [morning, evening] =>
    morning.spec == raising && evening.spec == raising
      && (evening.tick.reports.any fun r => r.action == .unhibernate
        && r.excluded.contains ⟨idleWorkload.key.text, unknownCountBefore⟩)
      && evening.after.countAt idleWorkload.key == some 3
  | _ => false

theorem exists_workday : ∃ morning evening, IsWorkday morning evening := by
  have hpasses : ((takeTurns ⟨61, 0⟩ (workday.map fun p => (p.1, p.2, id)) raiser
      (clusterOf [idleWorkload])).any isWorkday) = true := by decide +kernel
  obtain ⟨turns, hrun, hcheck⟩ := (Option.any_eq_true _ _).1 hpasses
  unfold isWorkday at hcheck
  split at hcheck
  · rename_i morning evening
    simp only [Bool.and_eq_true, List.any_eq_true, beq_iff_eq, List.contains_iff_mem] at hcheck
    obtain ⟨⟨⟨hmorning, hevening⟩, hwoken⟩, hraised⟩ := hcheck
    refine ⟨morning, evening, turns_of_takeTurns hrun, undisturbed_of_takeTurns hrun, ?_, hwoken,
      hraised⟩
    intro x hx
    rcases List.mem_cons.1 hx with rfl | hx
    · exact hmorning
    · rw [List.mem_singleton.1 hx]
      exact hevening
  · cases hcheck

/-- The last transition that sets a number of the workload is the one of the morning. -/
theorem raised_stays_workload : ∃ morning evening log, IsWorkday morning evening
    ∧ Journal raiser [morning, evening] log
    ∧ (∀ e ∈ log, e.2.LeavesUnknown e.1 idleWorkload.key)
    ∧ LastSet idleWorkload.key (some 0) log (some 3) := by
  obtain ⟨morning, evening, hday⟩ := exists_workday
  have hc : (clusterOf [idleWorkload]).Keyed := by decide +kernel
  have hnone := autoscalersIn_eq_nil_of_kinds hc (by decide +kernel)
  have hresources : ∀ x ∈ [morning, evening], x.spec.targetResources = [] := by
    intro x hx
    rw [hday.same x hx]
    rfl
  obtain ⟨log, hjournal, hleaves, hlast⟩ := raised_stays hc hnone rfl hday.turns hday.alone
    hresources (k := idleWorkload.key) (m := idleWorkload) (by decide +kernel) (by decide)
    (by decide)
  refine ⟨morning, evening, log, hday, hjournal, hleaves, ?_⟩
  rw [← hday.raised]
  exact hlast

/-- **A window that is not undone.**  The workload has no replicas and no annotation in the
beginning. Nothing is refused, and the resource is new and scales by plain rules. The look behind
the window wakes objects up and selects the workload, which then still has the replicas that the
window gave it. -/
theorem raised_not_undone :
    (clusterOf [idleWorkload]).Keyed ∧ (∀ ns, (clusterOf [idleWorkload]).autoscalersIn ns = [])
    ∧ (clusterOf [idleWorkload]).refusedPatches = []
    ∧ (clusterOf [idleWorkload]).refusedLists = []
    ∧ (clusterOf [idleWorkload]).object? idleWorkload.key = some idleWorkload
    ∧ idleWorkload.replicaCount? = some 0
    ∧ idleWorkload.annotation? replicasAnnotationKey = none
    ∧ raiser.status = none ∧ raising.action = .scale ∧ raising.targetReplicas ≠ []
    ∧ raising.targetResources = [] ∧ (∀ r ∈ raising.rules, r.IsPlain ∧ r.action = none)
    ∧ ∃ morning evening, IsWorkday morning evening
      ∧ evening.after.countAt idleWorkload.key ≠ some 0 := by
  have hc : (clusterOf [idleWorkload]).Keyed := by decide +kernel
  obtain ⟨morning, evening, hday⟩ := exists_workday
  refine ⟨hc, autoscalersIn_eq_nil_of_kinds hc (by decide +kernel), rfl, rfl, by decide +kernel,
    by decide, by decide, rfl, rfl, by decide, rfl, by decide, morning, evening, hday, ?_⟩
  rw [hday.raised]
  decide

end Slumber
