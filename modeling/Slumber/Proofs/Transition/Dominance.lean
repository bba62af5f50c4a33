import Slumber.Proofs.Transition.Exclusions
import Slumber.Proofs.Transition.Truthful

/-!
# Exclusions win over inclusions

What a group of rules reports as excluded by a rule is none of the objects that it acts upon, and so
its transition leaves it alone, with one exception: an autoscaler is scaled in the place of a
workload that the group acts upon, whether a rule excludes the autoscaler or not.

* `Cluster.StandsIn` — the object stands in for one that a group of rules acts upon;
* `exclusion_dominates` — an excluded object that stands in for no other is neither touched nor
  reported;
* `excluded_autoscaler_scaled` — an excluded autoscaler that does stand in is both.
-/

namespace Slumber

open Cluster Selection

/-! ### Excluded objects -/

/-- The object is scaled in the place of one that the group of rules acts upon. -/
def Cluster.StandsIn (c : Cluster) (now : Instant) (rules : List Rule) (m : Manifest) : Prop :=
  ∃ target, c.object? target.key = some target ∧ c.IsTarget now rules target
    ∧ c.standIn target = m

section

variable {now : Instant} {s : Spec} {isActive : Bool} {range : Option Nat} {h : History}
  {c c' : Cluster} {rules : List Rule} {t : Transition} {report : Report} {m : Manifest}

/-- A set apart object that a group does not reach through another one is neither touched by the
group's transition nor reported as impacted. -/
theorem executeGroup_spares (hc : c.Keyed)
    (hrun : executeGroup now s t rules h c = .ok (report, c')) (hm : c.object? m.key = some m)
    (hapart : c.IsSetApart now rules m) (hreach : t = .delete ∨ ¬ c.StandsIn now rules m) :
    TouchesOnly (· ≠ m.key) c c' ∧ ∀ i ∈ report.impacted, i.key ≠ m.key.text := by
  obtain ⟨all, -, hselects, rfl, rfl⟩ := executeGroup_ok hc hrun
  obtain ⟨steps, hreport, hran⟩ := executeGroup_ran hc hselects t s.storeDeleted h
  have hheld : ∀ target ∈ all.targets, c.object? target.key = some target :=
    fun target htarget => ((mem_targets_iff hc hselects).1 htarget).1
  -- Nothing is handled under the key: a target would be the object itself, or be represented by it.
  have hother : ∀ k ∈ stepKeys steps, k ≠ m.key := by
    rintro k hk rfl
    obtain ⟨target, htarget, hkey⟩ := hran.targeted _ hk
    obtain ⟨hstored, histarget⟩ := (mem_targets_iff hc hselects).1 htarget
    have hsame : t.standIn c target = m := by
      have hstand := object?_transition_standIn (t := t) hc hstored
      rw [hkey, hm, Option.some.injEq] at hstand
      exact hstand.symm
    unfold Transition.standIn at hsame
    split at hsame
    · exact histarget.2 (hsame ▸ hapart)
    · rename_i ht
      exact (hreach.resolve_left ht) ⟨target, hstored, histarget, hsame⟩
  refine ⟨hran.touches.mono hother, fun i hi htext => ?_⟩
  rw [Report.adding, hreport, List.append_nil] at hi
  obtain ⟨step, hstep, hi⟩ := List.mem_flatMap.1 hi
  exact hother _ (List.mem_map_of_mem hstep) (hran.key_eq_of_reported hc hm hstep hi htext)

/-- **Exclusions win.**  Every object that a report of an execution lists as excluded by a rule is
stored, is set apart by a rule of the report's group, and is none of the objects that the group acts
upon. If the group deletes objects, or if the object is not scaled in the place of one that the
group acts upon, then the group's transition neither patches nor deletes it, and its key is not
among those of the impacted objects. -/
theorem exclusion_dominates (hc : c.Keyed) {reports : List Report}
    (hrun : execute now s isActive range h c = .ok (reports, c')) (hreport : report ∈ reports)
    {o : ExcludedObject} (ho : o ∈ report.excluded) (hreason : o.reason = excludedByRule) :
    ∃ before action rules t c₁ c₂ m,
      GroupRun now s isActive range h c before action rules t c₁ report c₂
      ∧ c₁.object? m.key = some m ∧ o.key = m.key.text ∧ c₁.IsSetApart now rules m
      ∧ ¬ c₁.IsTarget now rules m
      ∧ (t = .delete ∨ ¬ c₁.StandsIn now rules m →
          TouchesOnly (· ≠ m.key) c₁ c₂ ∧ ∀ i ∈ report.impacted, i.key ≠ o.key) := by
  obtain ⟨before, action, rules, t, c₁, c₂, hgroup⟩ := execute_groupRun hrun hreport
  obtain ⟨reports', hbefore⟩ := hgroup.before_ok
  obtain ⟨hc₁, -⟩ := executeGroups_ok hc hbefore
  obtain ⟨m, hm, hkey, hapart⟩ := isSetApart_of_reported hc₁ hgroup.group_ok ho hreason
  refine ⟨before, action, rules, t, c₁, c₂, m, hgroup, hm, hkey, hapart,
    fun htarget => htarget.2 hapart, fun hreach => ?_⟩
  rw [hkey]
  exact executeGroup_spares hc₁ hgroup.group_ok hm hapart hreach

end

/-! ### Instances -/

/-- A rule for the workloads and autoscalers of a namespace that excludes one workload. -/
def butWorkload : Rule :=
  { inclusions := [inProd "deployment,hpa" ""], exclusions := [inProd "deployment" "web"] }

/-- Nothing else is scaled in the place of the workload, which has an autoscaler. -/
theorem not_standsIn_keptWorkload (now : Instant) (rules : List Rule) :
    ¬ (clusterOf [keptWorkload, keptAutoscaler]).StandsIn now rules keptWorkload := by
  have hgoverned : ∀ p ∈ (clusterOf [keptWorkload, keptAutoscaler]).objects,
      ((clusterOf [keptWorkload, keptAutoscaler]).standIn p.2).key ≠ keptWorkload.key := by
    decide +kernel
  rintro ⟨target, hstored, -, hsame⟩
  exact hgoverned _ (FiniteMap.mem_of_find? hstored) (congrArg Manifest.key hsame)

/-- The workload is excluded, and its autoscaler, which is not, is put to sleep. -/
theorem exclusion_dominates_workload :
    (clusterOf [keptWorkload, keptAutoscaler]).Keyed
    ∧ ∃ reports c' report c₁ c₂,
      execute ⟨0, 0⟩ { rules := [butWorkload] } true none ⟨[], 10⟩
          (clusterOf [keptWorkload, keptAutoscaler]) = .ok (reports, c')
      ∧ report ∈ reports ∧ ⟨keptWorkload.key.text, excludedByRule⟩ ∈ report.excluded
      ∧ GroupRun ⟨0, 0⟩ { rules := [butWorkload] } true none ⟨[], 10⟩
          (clusterOf [keptWorkload, keptAutoscaler]) [] .hibernate [butWorkload] .hibernate c₁
          report c₂
      ∧ report.impacted.map (·.key) = [keptAutoscaler.key.text]
      ∧ TouchesOnly (· ≠ keptWorkload.key) c₁ c₂ := by
  have hc : (clusterOf [keptWorkload, keptAutoscaler]).Keyed := by decide +kernel
  have hcheck : (match execute ⟨0, 0⟩ { rules := [butWorkload] } true none ⟨[], 10⟩
      (clusterOf [keptWorkload, keptAutoscaler]) with
    | .ok (reports, _) => reports.any fun report =>
        report.excluded.contains ⟨keptWorkload.key.text, excludedByRule⟩
          && report.impacted.map (·.key) == [keptAutoscaler.key.text]
    | .error _ => false) = true := by decide +kernel
  split at hcheck
  · rename_i reports c' hrun
    obtain ⟨report, hreport, hall⟩ := List.any_eq_true.1 hcheck
    rw [Bool.and_eq_true, List.contains_iff_mem, beq_iff_eq] at hall
    obtain ⟨hexcluded, himpacted⟩ := hall
    obtain ⟨before, action, rules, t, c₁, c₂, m, hgroup, hm, hkey, -, -, hspared⟩ :=
      exclusion_dominates hc hrun hreport hexcluded rfl
    -- There is one group, so that it finds the cluster as it was.
    obtain ⟨rfl, rfl, rfl, rfl⟩ := hgroup.of_single
      (show ruleGroups { rules := [butWorkload] } = [(.hibernate, [butWorkload])] by decide)
    obtain rfl : t = .hibernate := (Option.some.inj hgroup.resolves).symm
    have hheld : (clusterOf [keptWorkload, keptAutoscaler]).object? keptWorkload.key
        = some keptWorkload := by decide +kernel
    have hsame : m.key = keptWorkload.key := hc.text_injective hm hheld hkey.symm
    obtain rfl : m = keptWorkload := by
      rw [hsame, hheld, Option.some.injEq] at hm
      exact hm.symm
    exact ⟨hc, reports, c', report, _, c₂, hrun, hreport, hexcluded, hgroup, himpacted,
      (hspared (.inr (not_standsIn_keptWorkload _ _))).1⟩
  · cases hcheck

/-- **An exclusion that does not win.**  A rule excludes an autoscaler and includes the workload
that it governs. The autoscaler is scaled in the place of the workload, and is reported both as
excluded by the rule and as impacted. -/
theorem excluded_autoscaler_scaled :
    ∃ reports c', execute ⟨0, 0⟩ { rules := [butAutoscaler] } true none ⟨[], 10⟩
        (clusterOf [keptWorkload, keptAutoscaler]) = .ok (reports, c')
      ∧ ∃ report ∈ reports, ⟨keptAutoscaler.key.text, excludedByRule⟩ ∈ report.excluded
        ∧ (∃ i ∈ report.impacted, i.key = keptAutoscaler.key.text)
        ∧ ∃ p ∈ c'.patches, p.key = keptAutoscaler.key := by
  have hcheck : (match execute ⟨0, 0⟩ { rules := [butAutoscaler] } true none ⟨[], 10⟩
      (clusterOf [keptWorkload, keptAutoscaler]) with
    | .ok (reports, c') => reports.any fun report =>
        report.excluded.contains ⟨keptAutoscaler.key.text, excludedByRule⟩
          && report.impacted.any (·.key == keptAutoscaler.key.text)
          && c'.patches.any (·.key == keptAutoscaler.key)
    | .error _ => false) = true := by decide +kernel
  split at hcheck
  · rename_i reports c' hrun
    refine ⟨reports, c', hrun, ?_⟩
    obtain ⟨report, hreport, hall⟩ := List.any_eq_true.1 hcheck
    simp only [Bool.and_eq_true, List.contains_iff_mem, List.any_eq_true, beq_iff_eq] at hall
    obtain ⟨⟨hexcluded, himpacted⟩, hpatched⟩ := hall
    exact ⟨report, hreport, hexcluded, himpacted, hpatched⟩
  · cases hcheck

end Slumber
