import Slumber.Proofs.Transition.Deleted
import Slumber.Proofs.Transition.Dominance
import Slumber.Proofs.Transition.Scalable

/-!
# Rules that overlap

A rule belongs to the group of its own action, or else of the action of the spec. The groups of an
execution run their transitions one after the other, and each selects its objects from the cluster
that the groups before it have left. So nothing keeps two groups from acting upon one object, if
their rules overlap; but nothing else can make them.

* `Pass`, `Passes` — the transitions of an execution, one after the other;
* `Cluster.Dwindled` — what an execution leaves of a cluster;
* `executeGroup_handles` — without autoscalers a transition handles its targets, and only them;
* `Pass.StartedAt.handles`, `Passes.startedAt` — the step and the run;
* `once_unless_overlap` — two transitions act upon one object only if the rules of both mean it;
* `overlap_twice` — overlapping rules by which an object is acted upon twice.
-/

namespace Slumber

open Cluster Selection Manifest Text

/-! ### Transitions one after the other -/

/-- The transition of a group of rules as it went: the cluster that it found, its report, and the
cluster that it left. -/
structure Pass where
  action : Action
  rules : List Rule
  transition : Transition
  before : Cluster
  report : Report
  after : Cluster

/-- From `c` the transitions of the groups lead to `c'`. A group without a transition is passed
over. -/
inductive Passes (now : Instant) (s : Spec) (isActive : Bool) (range : Option Nat) (h : History) :
    Cluster → List (Action × List Rule) → List Pass → Cluster → Prop
  | nil (c : Cluster) : Passes now s isActive range h c [] [] c
  | skip {c c' : Cluster} {action : Action} {rules : List Rule}
      {groups : List (Action × List Rule)} {passes : List Pass}
      (hnone : Transition.resolve action isActive s range = none)
      (hrest : Passes now s isActive range h c groups passes c') :
      Passes now s isActive range h c ((action, rules) :: groups) passes c'
  | cons {c c₁ c' : Cluster} {action : Action} {rules : List Rule} {t : Transition}
      {report : Report} {groups : List (Action × List Rule)} {passes : List Pass}
      (hresolves : Transition.resolve action isActive s range = some t)
      (hgroup : executeGroup now s t rules h c = .ok (report, c₁))
      (hrest : Passes now s isActive range h c₁ groups passes c') :
      Passes now s isActive range h c ((action, rules) :: groups)
        (⟨action, rules, t, c, report, c₁⟩ :: passes) c'

variable {now : Instant} {s : Spec} {isActive : Bool} {range : Option Nat} {h : History}
  {c c' c'' : Cluster} {groups : List (Action × List Rule)} {passes : List Pass} {p q : Pass}
  {rules : List Rule} {t : Transition} {report : Report} {reports : List Report} {k : ObjectKey}

/-- The reports of an execution are those of its transitions. -/
theorem executeGroups_eq_ok_iff :
    executeGroups now s isActive range h groups c = .ok (reports, c')
      ↔ ∃ passes, Passes now s isActive range h c groups passes c'
        ∧ passes.map (·.report) = reports := by
  constructor
  · intro hrun
    induction groups generalizing c reports with
    | nil =>
        cases hrun
        exact ⟨[], .nil _, rfl⟩
    | cons group groups ih =>
        obtain ⟨action, rules⟩ := group
        cases ht : Transition.resolve action isActive s range with
        | none =>
            rw [executeGroups_cons_none ht] at hrun
            obtain ⟨passes, hpasses, hreports⟩ := ih hrun
            exact ⟨passes, .skip ht hpasses, hreports⟩
        | some t =>
            obtain ⟨report, c₁, others, hgroup, hrest, rfl⟩ := (executeGroups_cons_ok ht).1 hrun
            obtain ⟨passes, hpasses, rfl⟩ := ih hrest
            exact ⟨_, .cons ht hgroup hpasses, rfl⟩
  · rintro ⟨passes, hpasses, rfl⟩
    induction hpasses with
    | nil c => rfl
    | skip hnone _ ih => rw [executeGroups_cons_none hnone, ih]
    | cons hresolves hgroup _ ih =>
        exact (executeGroups_cons_ok hresolves).2 ⟨_, _, _, hgroup, ih, rfl⟩

/-- Each transition is that of a group of its own. -/
theorem Passes.groups_sublist (hpasses : Passes now s isActive range h c groups passes c') :
    (passes.map fun p => (p.action, p.rules)).Sublist groups := by
  induction hpasses with
  | nil c => exact .slnil
  | skip _ _ ih => exact ih.cons _
  | cons _ _ _ ih => exact ih.cons_cons _

/-- The rules of a group are those of its action. -/
theorem rules_of_mem_ruleGroups {g : Action × List Rule} (hg : g ∈ ruleGroups s) :
    g.2 = s.rules.filter fun r => r.action.getD s.action = g.1 := by
  obtain ⟨a, -, rfl⟩ := List.mem_map.1 hg
  rfl

/-! ### What is left of a cluster -/

/-- `c'` serves and refuses to list what `c` does, and holds some of the objects of `c`, changed in
what transitions change only. -/
structure Cluster.Dwindled (c c' : Cluster) : Prop where
  types_eq : c'.types = c.types
  refusedLists_eq : c'.refusedLists = c.refusedLists
  stored : ∀ {k m'}, c'.object? k = some m' → ∃ m, c.object? k = some m ∧ SameOffScaling m m'

namespace Cluster.Dwindled

theorem refl (c : Cluster) : Dwindled c c :=
  ⟨rfl, rfl, fun hm => ⟨_, hm, .refl _⟩⟩

theorem trans (hc : Dwindled c c') (hc' : Dwindled c' c'') : Dwindled c c'' where
  types_eq := hc'.types_eq.trans hc.types_eq
  refusedLists_eq := hc'.refusedLists_eq.trans hc.refusedLists_eq
  stored := by
    intro k m'' hm''
    obtain ⟨m', hm', hsame'⟩ := hc'.stored hm''
    obtain ⟨m, hm, hsame⟩ := hc.stored hm'
    exact ⟨m, hm, hsame.trans hsame'⟩

end Cluster.Dwindled

/-- The autoscalers of a namespace, if they can be listed. -/
theorem Cluster.mem_autoscalersIn_iff {ns : String} {m : Manifest} :
    m ∈ c.autoscalersIn ns
      ↔ ∃ type, c.findType? "hpa" = some type ∧ c.Lists (some ns) type
        ∧ m ∈ c.select (some ns) type none := by
  unfold autoscalersIn
  cases c.findType? "hpa" with
  | none => simp
  | some type => simp [mem_list_iff]

/-- Where there are no autoscalers, none appear. -/
theorem Cluster.Dwindled.autoscalersIn_eq_nil (hless : Dwindled c c') (hc : c.Keyed)
    (hc' : c'.Keyed) {ns : String} (hnone : c.autoscalersIn ns = []) :
    c'.autoscalersIn ns = [] := by
  refine List.eq_nil_iff_forall_not_mem.2 fun m' hm' => ?_
  obtain ⟨type, htype, hlists, hselected⟩ := mem_autoscalersIn_iff.1 hm'
  obtain ⟨hstored, hlisted⟩ := (mem_select_iff hc'.filed).1 hselected
  obtain ⟨m, hm, hsame⟩ := hless.stored hstored
  have hkey := hc.key_eq hm
  rw [isListed_eq_of_sameOffScaling hsame, ← hkey] at hlisted
  have hmem : m ∈ c.autoscalersIn ns := by
    refine mem_autoscalersIn_iff.2 ⟨type, ?_, ?_, (mem_select_iff hc.filed).2 ⟨hkey ▸ hm, hlisted⟩⟩
    · rw [← htype, findType?, findType?, hless.types_eq]
    · unfold Lists at hlists ⊢
      rw [← hless.refusedLists_eq]
      exact hlists
  rw [hnone] at hmem
  cases hmem

/-! ### One transition -/

/-- A deletion leaves nothing of what it handles. -/
theorem Step.DoneIn.object?_of_delete {store : Bool} {step : Step}
    (hdone : step.DoneIn .delete store h c c') : c'.object? step.object.key = none := by
  have heffect := hdone.effect trivial
  generalize c'.object? step.object.key = after at heffect
  generalize step.impacted = impacted at heffect
  generalize step.excluded = excluded at heffect
  cases heffect with
  | deleted => rfl
  | unscaled ht => rcases ht with ht | ⟨_, _, ht⟩ <;> cases ht
  | scaled ht | scaleFailed ht | uncounted ht | unknown ht | awake ht | cleaned ht
  | cleanupFailed ht | restored ht | restoreFailed ht => cases ht

/-- A group leaves some of the objects that it finds. -/
theorem executeGroup_dwindled (hc : c.Keyed)
    (hrun : executeGroup now s t rules h c = .ok (report, c')) : Dwindled c c' := by
  obtain ⟨all, -, hselects, -, rfl⟩ := executeGroup_ok hc hrun
  obtain ⟨steps, -, hran⟩ := executeGroup_ran hc hselects t s.storeDeleted h
  refine ⟨hran.touches.types_eq, hran.touches.refusedLists_eq, fun {k m'} hm' => ?_⟩
  by_cases ht : t = .delete
  · subst ht
    by_cases hk : k ∈ stepKeys steps
    · obtain ⟨step, hstep, rfl⟩ := List.mem_map.1 hk
      rw [(hran.done step hstep).object?_of_delete] at hm'
      cases hm'
    · rw [hran.touches.object?_eq k hk] at hm'
      exact ⟨m', hm', .refl m'⟩
  · obtain ⟨m, hm, hsame⟩ := (hran.alike ht).symm.object? hm'
    exact ⟨m, hm, hsame.symm⟩

/-- Without autoscalers a group handles its targets, and nothing else. -/
theorem executeGroup_handles (hc : c.Keyed) (hnone : ∀ ns, c.autoscalersIn ns = [])
    (hrun : executeGroup now s t rules h c = .ok (report, c')) :
    ∃ (all : RuleSelection) (steps : List Step),
      report.impacted = steps.flatMap (·.impacted)
      ∧ (∀ step ∈ steps, ∀ o ∈ step.excluded, o ∈ report.excluded)
      ∧ Ran t s.storeDeleted h c [] all.targets c steps c'
      ∧ ∀ k, k ∈ stepKeys steps ↔ ∃ m, c.object? k = some m ∧ c.IsTarget now rules m := by
  obtain ⟨all, -, hselects, rfl, rfl⟩ := executeGroup_ok hc hrun
  obtain ⟨steps, hreport, hran⟩ := executeGroup_ran hc hselects t s.storeDeleted h
  have hstand : ∀ target, t.standIn c target = target := by
    intro target
    unfold Transition.standIn Cluster.standIn
    rw [hnone]
    simp
  refine ⟨all, steps, ?_, fun step hstep o ho => ?_, hran,
    fun k => ⟨fun hk => ?_, fun ⟨m, hm, hmeant⟩ => ?_⟩⟩
  · rw [Report.adding, hreport, List.append_nil]
  · rw [Report.adding, hreport]
    exact List.mem_append_left _ (List.mem_flatMap.2 ⟨step, hstep, ho⟩)
  · obtain ⟨target, htarget, rfl⟩ := hran.targeted k hk
    rw [hstand]
    obtain ⟨hstored, hmeant⟩ := (mem_targets_iff hc hselects).1 htarget
    exact ⟨target, hstored, hmeant⟩
  · obtain rfl := hc.key_eq hm
    have hhandled := hran.complete m ((mem_targets_iff hc hselects).2 ⟨hm, hmeant⟩)
    rw [hstand] at hhandled
    exact hhandled.resolve_left List.not_mem_nil

/-- The transition acts upon the object under a key: a rule of its group includes the object, and
none sets it apart. -/
def Pass.Targets (now : Instant) (p : Pass) (k : ObjectKey) : Prop :=
  ∃ m, p.before.object? k = some m ∧ p.before.IsTarget now p.rules m

/-- The transition neither patches nor deletes the object under a key, and does not report it as
impacted. -/
def Pass.Spares (p : Pass) (k : ObjectKey) : Prop :=
  TouchesOnly (· ≠ k) p.before p.after ∧ ∀ i ∈ p.report.impacted, i.key ≠ k.text

/-- The transition is applied to each of its targets once, as it was found, and touches and reports
nothing else. -/
def Pass.Handles (now : Instant) (s : Spec) (h : History) (p : Pass) : Prop :=
  ∃ steps : List Step, (stepKeys steps).Nodup ∧ (∀ k, k ∈ stepKeys steps ↔ p.Targets now k)
    ∧ (∀ step ∈ steps, step.DoneIn p.transition s.storeDeleted h p.before p.after)
    ∧ TouchesOnly (· ∈ stepKeys steps) p.before p.after
    ∧ p.report.impacted = steps.flatMap (·.impacted)

/-- The transition is one of an execution that started at `c`. -/
structure Pass.StartedAt (now : Instant) (s : Spec) (h : History) (c : Cluster) (p : Pass) :
    Prop where
  keyed : p.before.Keyed
  dwindled : Dwindled c p.before
  group_ok : executeGroup now s p.transition p.rules h p.before = .ok (p.report, p.after)

theorem Pass.StartedAt.of_dwindled (hp : p.StartedAt now s h c') (hless : Dwindled c c') :
    p.StartedAt now s h c :=
  ⟨hp.keyed, hless.trans hp.dwindled, hp.group_ok⟩

/-- **One transition.**  It handles its targets, and only them. -/
theorem Pass.StartedAt.handles (hp : p.StartedAt now s h c) (hc : c.Keyed)
    (hnone : ∀ ns, c.autoscalersIn ns = []) : p.Handles now s h := by
  obtain ⟨all, steps, himpacted, -, hran, hhandled⟩ := executeGroup_handles hp.keyed
    (fun ns => hp.dwindled.autoscalersIn_eq_nil hc hp.keyed (hnone ns)) hp.group_ok
  exact ⟨steps, hran.nodup, hhandled, hran.done, hran.touches, himpacted⟩

/-- What is reported is reported of a target, which was stored in the beginning. -/
theorem Pass.StartedAt.targets_of_reported (hp : p.StartedAt now s h c) (hc : c.Keyed)
    (hnone : ∀ ns, c.autoscalersIn ns = []) {i : ImpactedObject} (hi : i ∈ p.report.impacted) :
    ∃ k, c.object? k ≠ none ∧ i.key = k.text ∧ p.Targets now k := by
  obtain ⟨steps, -, hkeys, hdone, -, himpacted⟩ := hp.handles hc hnone
  rw [himpacted] at hi
  obtain ⟨step, hstep, hi⟩ := List.mem_flatMap.1 hi
  obtain ⟨c₁, hc₁, -, hfound, hnow, hout, -⟩ := hdone step hstep
  obtain ⟨m, hm, -⟩ := hp.dwindled.stored hfound
  refine ⟨step.object.key, by rw [hm]; exact Option.some_ne_none m, ?_,
    (hkeys _).1 (List.mem_map_of_mem hstep)⟩
  exact p.transition.key_of_mem_applyTo hc₁ hnow s.storeDeleted h (by rw [hout]; exact hi)

/-- It spares every object that is not one of its targets. -/
theorem Pass.StartedAt.spares_or_targets (hp : p.StartedAt now s h c) (hc : c.Keyed)
    (hnone : ∀ ns, c.autoscalersIn ns = []) (hk : c.object? k ≠ none) :
    p.Spares k ∨ p.Targets now k := by
  by_cases htargets : p.Targets now k
  · exact .inr htargets
  · refine .inl ⟨?_, fun i hi htext => ?_⟩
    · obtain ⟨steps, -, hkeys, -, htouches, -⟩ := hp.handles hc hnone
      refine htouches.mono ?_
      rintro k' hk' rfl
      exact htargets ((hkeys k').1 hk')
    · obtain ⟨k', hk', htext', htarget⟩ := hp.targets_of_reported hc hnone hi
      obtain ⟨m, hm⟩ := Option.ne_none_iff_exists'.1 hk
      obtain ⟨m', hm'⟩ := Option.ne_none_iff_exists'.1 hk'
      obtain rfl := hc.text_injective hm hm' (htext.symm.trans htext')
      exact htargets htarget

/-- Nothing is left of the targets of a deletion. -/
theorem Pass.StartedAt.object?_of_delete (hp : p.StartedAt now s h c) (hc : c.Keyed)
    (hnone : ∀ ns, c.autoscalersIn ns = []) (hdelete : p.transition = .delete)
    (htarget : p.Targets now k) : p.after.object? k = none := by
  obtain ⟨steps, -, hkeys, hdone, -, -⟩ := hp.handles hc hnone
  obtain ⟨step, hstep, rfl⟩ := List.mem_map.1 ((hkeys k).2 htarget)
  have hdone := hdone step hstep
  rw [hdelete] at hdone
  exact hdone.object?_of_delete

/-! ### Whole executions -/

/-- **Run.**  Each transition starts at what those before it have left. -/
theorem Passes.startedAt (hpasses : Passes now s isActive range h c groups passes c')
    (hc : c.Keyed) :
    (∀ p ∈ passes, p.StartedAt now s h c)
    ∧ passes.Pairwise fun p q => q.StartedAt now s h p.after := by
  induction hpasses with
  | nil c => exact ⟨fun p hp => (by cases hp), .nil⟩
  | skip _ _ ih => exact ih hc
  | cons _ hgroup _ ih =>
      have hless := executeGroup_dwindled hc hgroup
      obtain ⟨hrest, hpairs⟩ := ih (executeGroup_keyed hc hgroup)
      refine ⟨fun p hp => ?_, .cons hrest hpairs⟩
      rcases List.mem_cons.1 hp with rfl | hp
      · exact ⟨hc, .refl _, hgroup⟩
      · exact (hrest p hp).of_dwindled hless

/-- Transitions that delete nothing leave a cluster alike. -/
theorem Passes.alike (hpasses : Passes now s isActive range h c groups passes c') (hc : c.Keyed)
    (hstays : ∀ p ∈ passes, p.transition ≠ .delete) : ∀ p ∈ passes, Alike c p.before := by
  induction hpasses with
  | nil c => exact fun p hp => by cases hp
  | skip _ _ ih => exact ih hc hstays
  | cons _ hgroup _ ih =>
      obtain ⟨all, -, hselects, -, rfl⟩ := executeGroup_ok hc hgroup
      obtain ⟨steps, -, hran⟩ := executeGroup_ran hc hselects _ s.storeDeleted h
      have halike := hran.alike (hstays _ List.mem_cons_self)
      intro p hp
      rcases List.mem_cons.1 hp with rfl | hp
      · exact .refl _
      · exact halike.trans (ih hran.keyed (fun q hq => hstays q (List.mem_cons_of_mem _ hq)) p hp)

/-- Rules without expressions mean what they mean in the beginning, as long as the cluster stays
alike. -/
theorem Pass.targets_iff_of_alike (halike : Alike c p.before) (hrules : ∀ r ∈ p.rules, r.IsPlain) :
    p.Targets now k ↔ ∃ m, c.object? k = some m ∧ c.IsTarget now p.rules m := by
  constructor
  · rintro ⟨m, hm, hmeant⟩
    obtain ⟨m₀, hm₀, hsame⟩ := halike.symm.object? hm
    exact ⟨m₀, hm₀, (halike.symm.isTarget_iff hrules hsame).1 hmeant⟩
  · rintro ⟨m₀, hm₀, hmeant⟩
    obtain ⟨m, hm, hsame⟩ := halike.object? hm₀
    exact ⟨m, hm, (halike.isTarget_iff hrules hsame).1 hmeant⟩

/-- **Overlaps.**  For every keyed cluster without autoscalers, every spec, state of the schedule,
range and history, an execution consists of transitions such that

* the rules of each are those of the spec whose own action, or else the action of the spec, is its
  action, and these actions are distinct;
* each is applied to every object that its rules mean when its turn comes, once, and touches and
  reports nothing else; and it reports only objects that were stored in the beginning;
* of two transitions one spares an object, that is, neither patches nor deletes it and does not
  report it, unless the rules of both mean the object, each when its turn comes, and the first one
  is no deletion;
* if the rules use no expressions and nothing is deleted, it can be told in the beginning which
  objects the rules of each mean. -/
theorem once_unless_overlap (hc : c.Keyed) (hnone : ∀ ns, c.autoscalersIn ns = [])
    (hrun : execute now s isActive range h c = .ok (reports, c')) :
    ∃ passes, Passes now s isActive range h c (ruleGroups s) passes c'
      ∧ passes.map (·.report) = reports
      ∧ (∀ p ∈ passes, (p.rules = s.rules.filter fun r => r.action.getD s.action = p.action)
          ∧ p.Handles now s h
          ∧ ∀ i ∈ p.report.impacted, ∃ k, c.object? k ≠ none ∧ i.key = k.text)
      ∧ (passes.Pairwise fun p q => p.action ≠ q.action ∧ ∀ k, c.object? k ≠ none →
          p.Spares k ∨ q.Spares k
            ∨ p.Targets now k ∧ q.Targets now k ∧ p.transition ≠ .delete)
      ∧ ((∀ r ∈ s.rules, r.IsPlain) → (∀ p ∈ passes, p.transition ≠ .delete) →
          ∀ p ∈ passes, ∀ k, p.Targets now k
            ↔ ∃ m, c.object? k = some m ∧ c.IsTarget now p.rules m) := by
  obtain ⟨passes, hpasses, hreports⟩ := executeGroups_eq_ok_iff.1 hrun
  obtain ⟨hstarted, hpairs⟩ := hpasses.startedAt hc
  have hgroup : ∀ p ∈ passes, (p.action, p.rules) ∈ ruleGroups s := fun p hp =>
    hpasses.groups_sublist.subset (List.mem_map_of_mem hp)
  have hactions : passes.Pairwise fun p q => p.action ≠ q.action := by
    have hnodup := (ruleGroups_nodup s).sublist (hpasses.groups_sublist.map (·.1))
    rw [List.map_map] at hnodup
    exact List.pairwise_map.1 hnodup
  refine ⟨passes, hpasses, hreports, fun p hp => ⟨rules_of_mem_ruleGroups (hgroup p hp),
    (hstarted p hp).handles hc hnone, ?_⟩, ?_, ?_⟩
  · intro i hi
    obtain ⟨k, hk, htext, -⟩ := (hstarted p hp).targets_of_reported hc hnone hi
    exact ⟨k, hk, htext⟩
  · refine (hactions.and hpairs).imp_of_mem fun {p q} hp hq ⟨hne, hafter⟩ => ⟨hne, fun k hk => ?_⟩
    rcases (hstarted p hp).spares_or_targets hc hnone hk with hspares | htarget
    · exact .inl hspares
    rcases (hstarted q hq).spares_or_targets hc hnone hk with hspares | htarget'
    · exact .inr (.inl hspares)
    refine .inr (.inr ⟨htarget, htarget', fun hdelete => ?_⟩)
    -- What the first one deletes is not there any more when the second one selects.
    have hgone := (hstarted p hp).object?_of_delete hc hnone hdelete htarget
    obtain ⟨m, hm, -⟩ := htarget'
    obtain ⟨m', hm', -⟩ := hafter.dwindled.stored hm
    rw [hgone] at hm'
    cases hm'
  · intro hplain hstays p hp k
    refine Pass.targets_iff_of_alike (hpasses.alike hc hstays p hp) fun r hr => ?_
    exact hplain r ((mem_ruleGroups (hgroup p hp)).2 r hr)

/-! ### Instances -/

/-- Where no object is of the type of autoscalers, none can be listed. -/
theorem autoscalersIn_eq_nil_of_kinds (hc : c.Keyed)
    (hkinds : ∀ p ∈ c.objects, ∀ type ∈ c.findType? "hpa", p.1.kind ≠ type.kind.kind)
    (ns : String) : c.autoscalersIn ns = [] := by
  refine List.eq_nil_iff_forall_not_mem.2 fun m hm => ?_
  obtain ⟨type, htype, -, hselected⟩ := mem_autoscalersIn_iff.1 hm
  obtain ⟨hstored, hlisted⟩ := (mem_select_iff hc.filed).1 hselected
  exact hkinds _ (FiniteMap.mem_of_find? hstored) type htype (key_of_isListed hlisted).2.1

/-- A selector that gives names means objects of these names only. -/
theorem name_mem_of_means {selector : Selector} {m : Manifest}
    (hnamed : names selector.objects.name ≠ []) (hmeans : c.Means now selector m) :
    m.key.name ∈ names selector.objects.name := by
  have hin : ∀ {ns type}, c.MeansIn now ns type selector.objects m →
      m.key.name ∈ names selector.objects.name := by
    rintro ns type ⟨-, hkey⟩
    rw [if_neg hnamed] at hkey
    obtain ⟨name, hname, hkey⟩ := hkey
    rw [← hkey]
    exact hname
  obtain ⟨_, -, type, -, hmeans⟩ := hmeans
  split at hmeans
  · obtain ⟨_, -, hmeans⟩ := hmeans
    exact hin hmeans
  · exact hin hmeans

/-- Rules that give names do not mean an object of another name. -/
theorem Pass.not_targets_of_names (hkeyed : p.before.Keyed) (hrules : p.rules = rules)
    (hnames : ∀ r ∈ rules, ∀ selector ∈ r.inclusions,
      names selector.objects.name ≠ [] ∧ k.name ∉ names selector.objects.name) :
    ¬ p.Targets now k := by
  rintro ⟨m, hm, ⟨r, hr, ⟨selector, hselector, hmeans⟩, -⟩, -⟩
  obtain ⟨hnamed, hother⟩ := hnames r (hrules ▸ hr) selector hselector
  obtain rfl := hkeyed.key_eq hm
  exact hother (name_mem_of_means hnamed hmeans)

theorem Pass.not_spares_of_reported (hreported : k.text ∈ p.report.impacted.map (·.key)) :
    ¬ p.Spares k := by
  rintro ⟨-, hother⟩
  obtain ⟨i, hi, hkey⟩ := List.mem_map.1 hreported
  exact hother i hi hkey

/-- A workload beside the other one. -/
def otherWorkload : Manifest :=
  ⟨.obj
    [("apiVersion", .str "apps/v1"), ("kind", .str "Deployment"),
     ("metadata", .obj [("name", .str "api"), ("namespace", .str "prod")]),
     ("spec", .obj [("replicas", .int 2)])]⟩

/-- A cluster with two workloads. -/
def twoWorkloads : Cluster := clusterOf [otherWorkload, keptWorkload]

/-- A rule for a workload. -/
def sleepingRule : Rule :=
  { inclusions := [inProd "deployment" "web"] }

/-- A rule that deletes another workload. -/
def deletingRule : Rule :=
  { inclusions := [inProd "deployment" "api"], action := some .delete }

/-- Rules that do not overlap. -/
def apartSpec : Spec where
  rules := [sleepingRule, deletingRule]

/-- What a report says: its action and the keys of the impacted objects. -/
def Report.summary (r : Report) : Action × List String :=
  (r.action, r.impacted.map (·.key))

/-- What came of an execution: what the reports say, and the keys of the objects that were patched
and deleted. -/
def executionSummary (r : Except Overflow (List Report × Cluster)) :
    Option (List (Action × List String) × List ObjectKey × List ObjectKey) :=
  r.toOption.map fun (reports, c') =>
    (reports.map Report.summary, c'.patches.map (·.key), c'.deletions)

theorem ok_of_executionSummary {r : Except Overflow (List Report × Cluster)}
    {summaries : List (Action × List String)} {patched deleted : List ObjectKey}
    (hr : executionSummary r = some (summaries, patched, deleted)) :
    ∃ reports c', r = .ok (reports, c') ∧ reports.map Report.summary = summaries := by
  cases r with
  | error e => cases hr
  | ok result =>
      cases hr
      exact ⟨result.1, result.2, rfl, rfl⟩

/-- Each rule leaves the workload alone that the other one means. -/
theorem once_unless_overlap_apart :
    twoWorkloads.Keyed ∧ (∀ ns, twoWorkloads.autoscalersIn ns = [])
    ∧ ∃ reports c' p q, execute ⟨0, 0⟩ apartSpec true none ⟨[], 10⟩ twoWorkloads
          = .ok (reports, c')
      ∧ Passes ⟨0, 0⟩ apartSpec true none ⟨[], 10⟩ twoWorkloads (ruleGroups apartSpec) [p, q] c'
      ∧ p.Spares otherWorkload.key ∧ q.Spares keptWorkload.key := by
  have hc : twoWorkloads.Keyed := by decide +kernel
  have hnone := autoscalersIn_eq_nil_of_kinds hc (by decide +kernel)
  have hsummary : executionSummary (execute ⟨0, 0⟩ apartSpec true none ⟨[], 10⟩ twoWorkloads)
      = some ([(.hibernate, [keptWorkload.key.text]), (.delete, [otherWorkload.key.text])],
        [keptWorkload.key], [otherWorkload.key]) := by decide +kernel
  have hstored : twoWorkloads.object? otherWorkload.key ≠ none := by decide +kernel
  have hstored' : twoWorkloads.object? keptWorkload.key ≠ none := by decide +kernel
  have hsleeping : ∀ r ∈ [sleepingRule], ∀ selector ∈ r.inclusions,
      names selector.objects.name ≠ []
        ∧ otherWorkload.key.name ∉ names selector.objects.name := by decide +kernel
  have hdeleting : ∀ r ∈ [deletingRule], ∀ selector ∈ r.inclusions,
      names selector.objects.name ≠ []
        ∧ keptWorkload.key.name ∉ names selector.objects.name := by decide +kernel
  obtain ⟨reports, c', hrun, hreports⟩ := ok_of_executionSummary hsummary
  obtain ⟨passes, hpasses, rfl, -, hpairs, -⟩ := once_unless_overlap hc hnone hrun
  -- There are two groups, and each has a transition.
  have hgroups : ruleGroups apartSpec
      = [(.hibernate, [sleepingRule]), (.delete, [deletingRule])] := by decide
  have hpasses' := hpasses
  rw [hgroups] at hpasses'
  cases hpasses' with
  | skip hnone _ => cases hnone
  | cons _ hgroup hrest =>
  cases hrest with
  | skip hnone _ => cases hnone
  | cons _ _ hrest' =>
  cases hrest'
  have hkeyed := executeGroup_keyed hc hgroup
  have hpair := (List.pairwise_cons.1 hpairs).1 _ (List.mem_singleton_self _)
  simp only [List.map_cons, List.map_nil, List.cons.injEq, Report.summary, Prod.mk.injEq,
    and_true] at hreports
  obtain ⟨⟨-, himpacted⟩, -, himpacted'⟩ := hreports
  refine ⟨hc, hnone, _, c', _, _, hrun, hpasses, ?_, ?_⟩
  · rcases hpair.2 _ hstored with hspares | hspares | ⟨htargets, -⟩
    · exact hspares
    · exact absurd hspares (Pass.not_spares_of_reported (himpacted' ▸ List.mem_singleton_self _))
    · exact absurd htargets (Pass.not_targets_of_names hc rfl hsleeping)
  · rcases hpair.2 _ hstored' with hspares | hspares | ⟨-, htargets, -⟩
    · exact absurd hspares (Pass.not_spares_of_reported (himpacted ▸ List.mem_singleton_self _))
    · exact hspares
    · exact absurd htargets (Pass.not_targets_of_names hkeyed rfl hdeleting)

/-- A rule for all workloads, and another one that gives them an action of its own. -/
def overlappingSpec : Spec where
  rules := [everyWorkload, { everyWorkload with action := some .scale }]
  targetReplicas := [2]

/-- A rule for workloads that are awake, and one that deletes those that sleep. -/
def chainedSpec : Spec where
  rules := [{ inclusions := [inProd "deployment" "" [] ["spec.replicas>0"]] },
    { inclusions := [inProd "deployment" "" [] ["spec.replicas==0"]], action := some .delete }]

/-- **Acted upon twice.**  In a cluster without autoscalers two rules mean one workload, and it is
put to sleep and then scaled, though one of the rules has an action of its own. And of two rules
that cannot mean a workload both at a time, the first one changes it so that the second one does: it
is put to sleep and then deleted. Each time two reports list it. -/
theorem overlap_twice :
    (clusterOf [keptWorkload]).Keyed ∧ (∀ ns, (clusterOf [keptWorkload]).autoscalersIn ns = [])
    ∧ executionSummary (execute ⟨0, 0⟩ overlappingSpec true (some 0) ⟨[], 10⟩
        (clusterOf [keptWorkload]))
      = some ([(.hibernate, [keptWorkload.key.text]), (.scale, [keptWorkload.key.text])],
          [keptWorkload.key, keptWorkload.key], [])
    ∧ executionSummary (execute ⟨0, 0⟩ chainedSpec true none ⟨[], 10⟩ (clusterOf [keptWorkload]))
      = some ([(.hibernate, [keptWorkload.key.text]), (.delete, [keptWorkload.key.text])],
          [keptWorkload.key], [keptWorkload.key]) := by
  have hc : (clusterOf [keptWorkload]).Keyed := by decide +kernel
  exact ⟨hc, autoscalersIn_eq_nil_of_kinds hc (by decide +kernel), by decide +kernel,
    by decide +kernel⟩

end Slumber
