import Slumber.Proofs.Transition.Groups
import Slumber.Proofs.Transition.Truthful

/-!
# What executions delete

Only a group of rules with the action to delete makes objects disappear. A spec has at most one such
group, and its report holds a record of every object that the group deleted: with the manifest that
the object had until then, if manifests are to be kept.

* `mem_ruleGroups`, `ruleGroups_nodup` — the groups of a spec, one for an action;
* `executeGroup_deleted` — what one group deleted is reported;
* `Deleting`, `execute_deleted` — what a whole execution deleted, and by which group.
-/

namespace Slumber

open Cluster Selection

/-! ### The groups of a spec -/

/-- Collecting actions, each at its first appearance, gives distinct ones. -/
theorem nodup_foldl_actions (actions seen : List Action) (hseen : seen.Nodup) :
    (actions.foldl (fun as a => if a ∈ as then as else as ++ [a]) seen).Nodup := by
  induction actions generalizing seen with
  | nil => exact hseen
  | cons a actions ih =>
      rw [List.foldl_cons]
      refine ih _ ?_
      split
      · exact hseen
      · rename_i ha
        rw [List.nodup_append]
        exact ⟨hseen, List.nodup_singleton a, fun b hb a' ha' heq =>
          ha (List.mem_singleton.1 ha' ▸ heq ▸ hb)⟩

theorem mem_foldl_actions {actions seen : List Action} {a : Action}
    (ha : a ∈ actions.foldl (fun as a => if a ∈ as then as else as ++ [a]) seen) :
    a ∈ actions ∨ a ∈ seen := by
  induction actions generalizing seen with
  | nil => exact .inr ha
  | cons b actions ih =>
      rw [List.foldl_cons] at ha
      rcases ih ha with ha | ha
      · exact .inl (List.mem_cons_of_mem _ ha)
      · split at ha
        · exact .inr ha
        · rcases List.mem_append.1 ha with ha | ha
          · exact .inr ha
          · exact .inl (List.mem_singleton.1 ha ▸ List.mem_cons_self)

theorem ruleGroups_nodup (s : Spec) : ((ruleGroups s).map (·.1)).Nodup := by
  unfold ruleGroups
  dsimp only
  rw [List.map_map]
  show (List.map id _).Nodup
  rw [List.map_id]
  exact nodup_foldl_actions _ [] List.nodup_nil

/-- A group has the action of some rule, and rules of the spec. -/
theorem mem_ruleGroups {s : Spec} {g : Action × List Rule} (hg : g ∈ ruleGroups s) :
    (∃ r ∈ s.rules, g.1 = r.action.getD s.action) ∧ ∀ r ∈ g.2, r ∈ s.rules := by
  obtain ⟨a, ha, rfl⟩ := List.mem_map.1 hg
  refine ⟨?_, fun r hr => (List.mem_filter.1 hr).1⟩
  rcases mem_foldl_actions ha with ha | ha
  · obtain ⟨r, hr, hra⟩ := List.mem_map.1 ha
    exact ⟨r, hr, hra.symm⟩
  · cases ha

/-- Groups depend on the rules and on the action only. -/
theorem ruleGroups_congr {s s' : Spec} (hrules : s'.rules = s.rules)
    (haction : s'.action = s.action) : ruleGroups s' = ruleGroups s := by
  unfold ruleGroups
  rw [hrules, haction]

variable {now : Instant} {s : Spec} {isActive : Bool} {range : Option Nat} {h : History}
  {c c' : Cluster} {rules : List Rule} {t : Transition} {report : Report} {k : ObjectKey}
  {groups : List (Action × List Rule)} {reports : List Report} {action : Action} {m : Manifest}

/-- Only the action to delete is a deletion. -/
theorem Transition.eq_delete_of_resolve (ht : resolve action isActive s range = some t)
    (hdelete : t.action = .delete) : action = .delete := by
  cases action <;> cases isActive <;> cases ht <;> first | rfl | cases hdelete

/-- What is reported of a group has the action of its transition. -/
theorem executeGroup_action (hc : c.Keyed)
    (hrun : executeGroup now s t rules h c = .ok (report, c')) : report.action = t.action := by
  obtain ⟨all, -, hselects, rfl, -⟩ := executeGroup_ok hc hrun
  obtain ⟨steps, hreport, -⟩ := executeGroup_ran hc hselects t s.storeDeleted h
  rw [Report.adding, hreport]

/-- Without the action to delete among the groups, nothing is reported as deleted. -/
theorem action_ne_delete_of_mem (hc : c.Keyed)
    (hrun : executeGroups now s isActive range h groups c = .ok (reports, c'))
    (hgroups : .delete ∉ groups.map (·.1)) : ∀ r ∈ reports, r.action ≠ .delete := by
  intro r hr hdelete
  obtain ⟨before, action, rules, after, t, c₁, c₂, rfl, ht, ⟨_, hbefore⟩, hgroup⟩ :=
    executeGroups_split hrun hr
  rw [executeGroup_action (executeGroups_ok hc hbefore).1 hgroup] at hdelete
  refine hgroups ?_
  rw [← Transition.eq_delete_of_resolve ht hdelete]
  simp

/-! ### Records of deleted objects -/

/-- A group leaves a cluster keyed. -/
theorem executeGroup_keyed (hc : c.Keyed)
    (hrun : executeGroup now s t rules h c = .ok (report, c')) : c'.Keyed := by
  obtain ⟨all, -, hselects, -, rfl⟩ := executeGroup_ok hc hrun
  obtain ⟨steps, -, hran⟩ := executeGroup_ran hc hselects t s.storeDeleted h
  exact hran.keyed

/-- What a group with a transition other than a deletion finds, it leaves there. -/
theorem executeGroup_object? (hc : c.Keyed)
    (hrun : executeGroup now s t rules h c = .ok (report, c')) (ht : t ≠ .delete)
    (hm : c.object? k = some m) : ∃ m', c'.object? k = some m' := by
  obtain ⟨all, -, hselects, -, rfl⟩ := executeGroup_ok hc hrun
  obtain ⟨steps, -, hran⟩ := executeGroup_ran hc hselects t s.storeDeleted h
  obtain ⟨m', hm', -⟩ := (hran.alike ht).object? hm
  exact ⟨m', hm'⟩

/-- The record of a deleted object. -/
def deletedRecord (s : Spec) (k : ObjectKey) (m : Manifest) : ImpactedObject :=
  { key := k.text, deleted := if s.storeDeleted then m.document.render else "" }

/-- **One group.**  If an object disappears, then the group deletes, and its report, in which no key
appears twice, has a record of the object. -/
theorem executeGroup_deleted (hc : c.Keyed)
    (hrun : executeGroup now s t rules h c = .ok (report, c')) (hm : c.object? k = some m)
    (hgone : c'.object? k = none) :
    t = .delete ∧ (report.impacted.map (·.key)).Nodup
      ∧ deletedRecord s k m ∈ report.impacted := by
  have ht : t = .delete := by
    by_contra hne
    obtain ⟨m', hm'⟩ := executeGroup_object? hc hrun hne hm
    rw [hgone] at hm'
    cases hm'
  subst ht
  obtain ⟨all, -, hselects, rfl, rfl⟩ := executeGroup_ok hc hrun
  obtain ⟨steps, hreport, hran⟩ := executeGroup_ran hc hselects .delete s.storeDeleted h
  rw [Report.adding, hreport, List.append_nil]
  refine ⟨rfl, (hran.texts_nodup hc).sublist (hran.keys_sublist trivial), ?_⟩
  -- Only what was handled can be gone.
  have hhandled : k ∈ stepKeys steps := by
    by_contra hkey
    rw [hran.touches.object?_eq k hkey, hm] at hgone
    cases hgone
  obtain ⟨step, hstep, rfl⟩ := List.mem_map.1 hhandled
  have heffect := (hran.done step hstep).effect trivial
  have hobject := hran.object_eq_of_key hstep hm rfl
  refine List.mem_flatMap.2 ⟨step, hstep, ?_⟩
  rw [hgone] at heffect
  generalize step.impacted = impacted at heffect
  generalize step.excluded = excluded at heffect
  cases heffect
  rw [List.mem_singleton, hobject]
  rfl

/-! ### Whole executions -/

/-- In an execution that starts at `c` and gives the reports, a group of rules that finds an object
deletes it; the groups before and behind it give the reports before and behind its own. -/
structure Deleting (now : Instant) (s : Spec) (isActive : Bool) (range : Option Nat) (h : History)
    (c : Cluster) (reports : List Report) (k : ObjectKey) (m : Manifest) (newer : List Report) :
    Prop where
  deleted : ∃ before rules c₁ report c₂ older,
    GroupRun now s isActive range h c before .delete rules .delete c₁ report c₂
      ∧ c₁.object? k = some m ∧ c₂.object? k = none ∧ reports = older ++ report :: newer
      ∧ report.action = .delete ∧ (report.impacted.map (·.key)).Nodup
      ∧ deletedRecord s k m ∈ report.impacted
  others : ∀ r ∈ newer, r.action ≠ .delete

theorem executeGroups_deleted (hc : c.Keyed)
    (hrun : executeGroups now s isActive range h groups c = .ok (reports, c'))
    (hm : c.object? k = some m) (hgone : c'.object? k = none) :
    ∃ before rules after c₁ report c₂ older newer m', groups = before ++ (.delete, rules) :: after
      ∧ Transition.resolve .delete isActive s range = some .delete
      ∧ executeGroups now s isActive range h before c = .ok (older, c₁)
      ∧ executeGroup now s .delete rules h c₁ = .ok (report, c₂)
      ∧ executeGroups now s isActive range h after c₂ = .ok (newer, c')
      ∧ reports = older ++ report :: newer ∧ c₁.object? k = some m' ∧ c₂.object? k = none := by
  induction groups generalizing c reports m with
  | nil =>
      cases hrun
      rw [hm] at hgone
      cases hgone
  | cons group groups ih =>
      obtain ⟨action, rules⟩ := group
      cases ht : Transition.resolve action isActive s range with
      | none =>
          rw [executeGroups_cons_none ht] at hrun
          obtain ⟨before, rs, after, c₁, report, c₂, older, newer, m', rfl, hres, hbefore, hrest⟩ :=
            ih hc hrun hm
          exact ⟨(action, rules) :: before, rs, after, c₁, report, c₂, older, newer, m', rfl, hres,
            by rw [executeGroups_cons_none ht, hbefore], hrest⟩
      | some t =>
          obtain ⟨first, c₀, others, hfirst, hothers, rfl⟩ := (executeGroups_cons_ok ht).1 hrun
          cases hnow : c₀.object? k with
          | none =>
              obtain ⟨rfl, -, -⟩ := executeGroup_deleted hc hfirst hm hnow
              obtain rfl := Transition.eq_delete_of_resolve ht rfl
              exact ⟨[], rules, groups, c, first, c₀, [], others, m, rfl, ht, rfl, hfirst, hothers,
                rfl, hm, hnow⟩
          | some m₁ =>
              obtain ⟨before, rs, after, c₁, report, c₂, older, newer, m', rfl, hres, hbefore,
                hgroup, hafter, rfl, hrest⟩ := ih (executeGroup_keyed hc hfirst) hothers hnow
              exact ⟨(action, rules) :: before, rs, after, c₁, report, c₂, first :: older, newer,
                m', rfl, hres,
                (executeGroups_cons_ok ht).2 ⟨first, c₀, older, hfirst, hbefore, rfl⟩, hgroup,
                hafter, rfl, hrest⟩

/-- **Whole executions.**  An object that disappears is deleted by a group of rules, which reports
it. -/
theorem execute_deleted (hc : c.Keyed)
    (hrun : execute now s isActive range h c = .ok (reports, c')) (hm : c.object? k = some m)
    (hgone : c'.object? k = none) :
    ∃ m' newer, Deleting now s isActive range h c reports k m' newer := by
  obtain ⟨before, rules, after, c₁, report, c₂, older, newer, m', hgroups, hres, hbefore, hgroup,
    hafter, hreports, hfound, hgone'⟩ := executeGroups_deleted hc hrun hm hgone
  have hc₁ := (executeGroups_ok hc hbefore).1
  obtain ⟨-, hnodup, hrecord⟩ := executeGroup_deleted hc₁ hgroup hfound hgone'
  refine ⟨m', newer, ⟨⟨before, rules, c₁, report, c₂, older,
    ⟨⟨after, hgroups⟩, hres, ⟨older, hbefore⟩, hgroup⟩, hfound, hgone', hreports,
    executeGroup_action hc₁ hgroup, hnodup, hrecord⟩, ?_⟩⟩
  refine action_ne_delete_of_mem (executeGroup_keyed hc₁ hgroup) hafter fun hmem => ?_
  -- The actions of the groups are distinct.
  have hnodup := ruleGroups_nodup s
  rw [hgroups, List.map_append, List.map_cons, List.nodup_append] at hnodup
  exact (List.nodup_cons.1 hnodup.2.1).1 hmem

end Slumber
