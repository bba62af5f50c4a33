import Slumber.Proofs.Selection
import Slumber.Proofs.Transition.Runs

/-!
# What a group of rules does

A group of rules selects its objects first and then runs one transition on them. The objects it acts
upon are those that some rule includes and no rule sets apart.

* `RuleSelection.targets` — the objects that a group acts upon;
* `Cluster.IsTarget` — when a stored object is one of them;
* `executeGroup_ok` — the parts of a group's transition.
-/

namespace Slumber

open Cluster Selection

/-- The objects that a group of rules acts upon. -/
def Selection.RuleSelection.targets (all : RuleSelection) : List Manifest :=
  (all.included.filter fun p => !FiniteMap.contains all.excluded p.1).map (·.2)

namespace Cluster

/-- Some rule includes the object. -/
def IsIncluded (c : Cluster) (now : Instant) (rules : List Rule) (m : Manifest) : Prop :=
  ∃ r ∈ rules, c.Includes now r m ∧ ¬ c.Excludes now r m

/-- Some rule sets the object apart: its inclusions and its exclusions mean it. -/
def IsSetApart (c : Cluster) (now : Instant) (rules : List Rule) (m : Manifest) : Prop :=
  ∃ r ∈ rules, c.Includes now r m ∧ c.Excludes now r m

/-- The group of rules acts upon the object. -/
def IsTarget (c : Cluster) (now : Instant) (rules : List Rule) (m : Manifest) : Prop :=
  c.IsIncluded now rules m ∧ ¬ c.IsSetApart now rules m

end Cluster

variable {T : Prop} {c c' : Cluster} {now : Instant} {rules : List Rule} {all : RuleSelection}
  {s : Spec} {t : Transition} {h : History} {report : Report} {m : Manifest}

/-- The selection of a group. -/
theorem selectGroup_start_reads (hc : c.Keyed) (hT : T → ∀ r ∈ rules, r.IsPlain)
    (now : Instant) :
    Run.Reads T (selectGroup now rules {}) c fun all =>
      Selects c all (c.IsIncluded now rules) (c.IsSetApart now rules) := by
  refine (selectGroup_reads hc rules hT ⟨holds_nil, holds_nil⟩).mono fun all hall => ?_
  exact ⟨hall.included.mono fun m => by rw [false_or, IsIncluded],
    hall.excluded.mono fun m => by rw [false_or, IsSetApart]⟩

/-- A group acts upon the stored objects that are its targets. -/
theorem mem_targets_iff (hc : c.Keyed)
    (hall : Selects c all (c.IsIncluded now rules) (c.IsSetApart now rules)) :
    m ∈ all.targets ↔ c.object? m.key = some m ∧ c.IsTarget now rules m := by
  have hfree : ∀ m, c.object? m.key = some m →
      ((!FiniteMap.contains all.excluded m.key) = true ↔ ¬ c.IsSetApart now rules m) := by
    intro m hm
    rw [Bool.not_eq_true', ← hall.excluded.contains_key hm, Bool.not_eq_true]
  have hleft := hall.included.filter hc (fun k => !FiniteMap.contains all.excluded k) hfree
  exact hleft.mem_map_iff hc

/-- What a group excludes, as it is reported. -/
def Selection.RuleSelection.exclusions (all : RuleSelection) : List ExcludedObject :=
  all.excluded.map fun p => ⟨p.1.text, excludedByRule⟩

/-- The transition of a group is a run on its targets. -/
theorem executeGroup_of_select (hall : selectGroup now rules {} c = .ok (all, c)) :
    executeGroup now s t rules h c
      = .ok ((t.run s.storeDeleted all.targets h c).1.adding [] all.exclusions,
          (t.run s.storeDeleted all.targets h c).2) := by
  unfold executeGroup
  rw [Run.bind_of_ok hall, Run.bind_lift]
  rfl

/-- The parts of a group's transition that comes to an end. -/
theorem executeGroup_ok (hc : c.Keyed)
    (hrun : executeGroup now s t rules h c = .ok (report, c')) :
    ∃ all, selectGroup now rules {} c = .ok (all, c)
      ∧ Selects c all (c.IsIncluded now rules) (c.IsSetApart now rules)
      ∧ report = (t.run s.storeDeleted all.targets h c).1.adding [] all.exclusions
      ∧ c' = (t.run s.storeDeleted all.targets h c).2 := by
  have hrun' := hrun
  unfold executeGroup at hrun'
  obtain ⟨all, c₁, hall, -⟩ := Run.bind_ok.1 hrun'
  obtain ⟨rfl, hselects⟩ :=
    (selectGroup_start_reads (T := False) hc (fun h => h.elim) now).of_ok _ _ hall
  rw [executeGroup_of_select hall, Except.ok.injEq, Prod.mk.injEq] at hrun
  exact ⟨all, hall, hselects, hrun.1.symm, hrun.2.symm⟩

/-- What a group touches are the objects that stand in for its targets. -/
theorem executeGroup_ran (hc : c.Keyed)
    (hall : Selects c all (c.IsIncluded now rules) (c.IsSetApart now rules)) (t : Transition)
    (store : Bool) (h : History) :
    ∃ steps, (t.run store all.targets h c).1
        = { action := t.action, impacted := steps.flatMap (·.impacted),
            excluded := steps.flatMap (·.excluded) }
      ∧ Ran t store h c [] all.targets c steps (t.run store all.targets h c).2 :=
  t.run_ran hc store h fun _ hm => ((mem_targets_iff hc hall).1 hm).1

/-- What a transition leaves alone, it leaves alone for want of a number of replicas. -/
theorem Transition.reason_of_mem_applyTo (hc : c.Keyed) (hm : c.object? m.key = some m)
    (t : Transition) (store : Bool) (h : History) {o : ExcludedObject}
    (ho : o ∈ (t.applyTo store h m c).1.2) : o.reason = unknownCountBefore := by
  cases t with
  | hibernate => cases ho
  | delete => cases ho
  | scale replicas resources =>
      rw [applyTo_scale] at ho
      cases ho
  | unhibernate =>
      have heffect := (applyTo_handled (t := .unhibernate) hc.addressable hm trivial store h).effect
      generalize (applyTo .unhibernate store h m c).1.1 = impacted at heffect
      generalize (applyTo .unhibernate store h m c).1.2 = excluded at heffect ho
      generalize (applyTo .unhibernate store h m c).2.object? m.key = after at heffect
      cases heffect with
      | unknown =>
          rw [List.mem_singleton] at ho
          rw [ho]
      | _ => cases ho

/-- What a group reports as excluded by a rule is stored, and a rule sets it apart. -/
theorem isSetApart_of_reported (hc : c.Keyed)
    (hrun : executeGroup now s t rules h c = .ok (report, c')) {o : ExcludedObject}
    (ho : o ∈ report.excluded) (hreason : o.reason = excludedByRule) :
    ∃ m, c.object? m.key = some m ∧ o.key = m.key.text ∧ c.IsSetApart now rules m := by
  obtain ⟨all, -, hselects, rfl, -⟩ := executeGroup_ok hc hrun
  obtain ⟨steps, hreport, hran⟩ := executeGroup_ran hc hselects t s.storeDeleted h
  rw [Report.adding, hreport, List.mem_append] at ho
  rcases ho with ho | ho
  · obtain ⟨step, hstep, hos⟩ := List.mem_flatMap.1 ho
    obtain ⟨c₁, hc₁, -, -, hstored, hout, -⟩ := hran.done step hstep
    have hunknown : o.reason = unknownCountBefore :=
      t.reason_of_mem_applyTo hc₁ hstored s.storeDeleted h (by rw [hout]; exact hos)
    rw [hreason] at hunknown
    exact absurd hunknown (by decide)
  · obtain ⟨⟨k, m⟩, hmem, rfl⟩ := List.mem_map.1 ho
    have hstored : c.object? k = some m := hselects.excluded.1 _ hmem
    have hkey := hc.key_eq hstored
    subst hkey
    exact ⟨m, hstored, rfl, (hselects.excluded.contains_key hstored).1
      (FiniteMap.contains_iff_exists_mem.2 ⟨m, hmem⟩)⟩

/-! ### Several groups -/

/-- A group without a transition is passed over. -/
theorem executeGroups_cons_none {isActive : Bool} {range : Option Nat} {action : Action}
    {groups : List (Action × List Rule)}
    (hnone : Transition.resolve action isActive s range = none) :
    executeGroups now s isActive range h ((action, rules) :: groups) c
      = executeGroups now s isActive range h groups c := by
  rw [executeGroups, hnone]

/-- The report of a group with a transition comes first. -/
theorem executeGroups_cons_ok {isActive : Bool} {range : Option Nat} {action : Action}
    {groups : List (Action × List Rule)} {reports : List Report}
    (ht : Transition.resolve action isActive s range = some t) :
    executeGroups now s isActive range h ((action, rules) :: groups) c = .ok (reports, c')
      ↔ ∃ report c₁ reports', executeGroup now s t rules h c = .ok (report, c₁)
        ∧ executeGroups now s isActive range h groups c₁ = .ok (reports', c')
        ∧ reports = report :: reports' := by
  rw [executeGroups, ht]
  dsimp only
  rw [Run.bind_ok]
  constructor
  · rintro ⟨report, c₁, hgroup, hrest⟩
    obtain ⟨reports', c₂, hothers, hpure⟩ := Run.bind_ok.1 hrest
    rw [Run.pure_apply, Except.ok.injEq, Prod.mk.injEq] at hpure
    obtain ⟨rfl, rfl⟩ := hpure
    exact ⟨report, c₁, reports', hgroup, hothers, rfl⟩
  · rintro ⟨report, c₁, reports', hgroup, hrest, rfl⟩
    exact ⟨report, c₁, hgroup, Run.bind_ok.2 ⟨reports', c', hrest, rfl⟩⟩

/-- Groups leave a cluster keyed, and what it serves and refuses as it was. -/
theorem executeGroups_ok {isActive : Bool} {range : Option Nat} {groups : List (Action × List Rule)}
    {reports : List Report} (hc : c.Keyed)
    (hrun : executeGroups now s isActive range h groups c = .ok (reports, c')) :
    c'.Keyed ∧ TouchesOnly (fun _ => True) c c' := by
  induction groups generalizing c reports with
  | nil =>
      cases hrun
      exact ⟨hc, .refl _ _⟩
  | cons group groups ih =>
      obtain ⟨action, rules⟩ := group
      cases ht : Transition.resolve action isActive s range with
      | none =>
          rw [executeGroups_cons_none ht] at hrun
          exact ih hc hrun
      | some t =>
          obtain ⟨report, c₁, reports', hgroup, hrest, -⟩ := (executeGroups_cons_ok ht).1 hrun
          obtain ⟨all, -, hselects, -, rfl⟩ := executeGroup_ok hc hgroup
          obtain ⟨steps, -, hran⟩ := executeGroup_ran hc hselects t s.storeDeleted h
          obtain ⟨hkeyed, htouches⟩ := ih hran.keyed hrest
          exact ⟨hkeyed, (hran.touches.mono fun _ _ => trivial).trans htouches⟩

/-- The transition of one group in the execution of a spec that starts at `c`: the groups `before`
lead to `c₁`, and from there the group's transition leads to `c₂` with a report. -/
structure GroupRun (now : Instant) (s : Spec) (isActive : Bool) (range : Option Nat) (h : History)
    (c : Cluster) (before : List (Action × List Rule)) (action : Action) (rules : List Rule)
    (t : Transition) (c₁ : Cluster) (report : Report) (c₂ : Cluster) : Prop where
  is_group : ∃ after, ruleGroups s = before ++ (action, rules) :: after
  resolves : Transition.resolve action isActive s range = some t
  before_ok : ∃ reports, executeGroups now s isActive range h before c = .ok (reports, c₁)
  group_ok : executeGroup now s t rules h c₁ = .ok (report, c₂)

theorem executeGroups_split {isActive : Bool} {range : Option Nat}
    {groups : List (Action × List Rule)} {reports : List Report}
    (hrun : executeGroups now s isActive range h groups c = .ok (reports, c'))
    (hreport : report ∈ reports) :
    ∃ before action rules after t c₁ c₂, groups = before ++ (action, rules) :: after
      ∧ Transition.resolve action isActive s range = some t
      ∧ (∃ reports, executeGroups now s isActive range h before c = .ok (reports, c₁))
      ∧ executeGroup now s t rules h c₁ = .ok (report, c₂) := by
  induction groups generalizing c reports with
  | nil =>
      cases hrun
      cases hreport
  | cons group groups ih =>
      obtain ⟨action, rules⟩ := group
      cases ht : Transition.resolve action isActive s range with
      | none =>
        rw [executeGroups_cons_none ht] at hrun
        obtain ⟨before, a, rs, after, t, c₁, c₂, rfl, hres, ⟨reports', hbefore⟩, hgroup⟩ :=
          ih hrun hreport
        exact ⟨(action, rules) :: before, a, rs, after, t, c₁, c₂, rfl, hres,
          ⟨reports', by rw [executeGroups_cons_none ht, hbefore]⟩, hgroup⟩
      | some t =>
        obtain ⟨first, c₁, others, hfirst, hothers, rfl⟩ := (executeGroups_cons_ok ht).1 hrun
        rcases List.mem_cons.1 hreport with rfl | hreport
        · exact ⟨[], action, rules, groups, t, c, c₁, rfl, ht, ⟨[], rfl⟩, hfirst⟩
        · obtain ⟨before, a, rs, after, t', d₁, d₂, rfl, hres, ⟨reports', hbefore⟩, hgroup⟩ :=
            ih hothers hreport
          exact ⟨(action, rules) :: before, a, rs, after, t', d₁, d₂, rfl, hres,
            ⟨first :: reports', (executeGroups_cons_ok ht).2
              ⟨first, c₁, reports', hfirst, hbefore, rfl⟩⟩, hgroup⟩

/-- Every report of an execution is that of one group. -/
theorem execute_groupRun {isActive : Bool} {range : Option Nat} {reports : List Report}
    (hrun : execute now s isActive range h c = .ok (reports, c')) (hreport : report ∈ reports) :
    ∃ before action rules t c₁ c₂,
      GroupRun now s isActive range h c before action rules t c₁ report c₂ := by
  obtain ⟨before, action, rules, after, t, c₁, c₂, hsplit, hres, hbefore, hgroup⟩ :=
    executeGroups_split hrun hreport
  exact ⟨before, action, rules, t, c₁, c₂, ⟨after, hsplit⟩, hres, hbefore, hgroup⟩

/-- A single group finds the cluster as the execution does. -/
theorem GroupRun.of_single {isActive : Bool} {range : Option Nat}
    {before : List (Action × List Rule)} {action action' : Action} {rules' : List Rule}
    {c₁ c₂ : Cluster}
    (hrun : GroupRun now s isActive range h c before action rules t c₁ report c₂)
    (hsingle : ruleGroups s = [(action', rules')]) :
    before = [] ∧ action = action' ∧ rules = rules' ∧ c₁ = c := by
  obtain ⟨after, hgroups⟩ := hrun.is_group
  obtain ⟨_, hbefore⟩ := hrun.before_ok
  rw [hsingle, List.singleton_eq_append_iff] at hgroups
  rcases hgroups with ⟨rfl, hgroups⟩ | ⟨-, hgroups⟩
  · cases hgroups
    cases hbefore
    exact ⟨rfl, rfl, rfl, rfl⟩
  · cases hgroups

/-- There is at most one report for each group. -/
theorem executeGroups_length_le {isActive : Bool} {range : Option Nat}
    {groups : List (Action × List Rule)} {reports : List Report}
    (hrun : executeGroups now s isActive range h groups c = .ok (reports, c')) :
    reports.length ≤ groups.length := by
  induction groups generalizing c reports with
  | nil =>
      cases hrun
      exact Nat.le_refl 0
  | cons group groups ih =>
      obtain ⟨action, rules⟩ := group
      rw [List.length_cons]
      cases ht : Transition.resolve action isActive s range with
      | none =>
          rw [executeGroups_cons_none ht] at hrun
          exact Nat.le_succ_of_le (ih hrun)
      | some t =>
          obtain ⟨report, c₁, reports', -, hrest, rfl⟩ := (executeGroups_cons_ok ht).1 hrun
          exact Nat.succ_le_succ (ih hrest)

end Slumber
