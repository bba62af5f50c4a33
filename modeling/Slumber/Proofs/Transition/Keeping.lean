import Slumber.Proofs.Transition.Deleted
import Slumber.Proofs.Transition.Recovery

/-!
# What groups of rules do to one object that has a count

Whichever objects a transition acts upon, and in whose place, an object with a number of replicas
keeps it unless it is deleted. This is stated here for one object on its own, so that it can be
followed through transitions that act upon it at one time and upon what stands in for it at another.

* `Cluster.KeepsAt`, `Cluster.AwakeAt` — the count of an object is known, and in place;
* `ImpactedObject.Gives` — what is reported of the object is its count, or no count;
* `Cluster.Reaches` — a transition of the rules would scale the object;
* `Transition.applyTo_keeps` — what one transition does to the object;
* `Treats`, `executeGroups_treats` — what groups of rules do to it.
-/

namespace Slumber

open Cluster Selection Manifest

variable {t : Transition} {store : Bool} {hist : History} {c c' c'' : Cluster} {m : Manifest}
  {k : ObjectKey} {n : Int32}

/-! ### One transition -/

/-- Whatever happens to the containers, the count is kept. -/
theorem Manifest.Keeps.of_agreeOff_containers {m' : Manifest} (hm : m.Keeps n)
    (h : Json.AgreeOff [containersPath] m.document m'.document) : m'.Keeps n := by
  have hsame : SameOffScaling m m' := h.mono fun q hq =>
    ⟨q, by rw [List.mem_singleton.1 hq]; decide, List.prefix_rfl⟩
  have hcount : m'.replicaCount? = m.replicaCount? := by
    rw [replicaCount?_eq, replicaCount?_eq, hsame.replicaPath_eq, h m.replicaPath]
    intro q hq
    rw [List.mem_singleton.1 hq]
    exact m.replicaPath_apart_containers.symm
  have hann : m'.annotation? replicasAnnotationKey = m.annotation? replicasAnnotationKey := by
    rw [annotation?_eq, annotation?_eq, h annotationPath]
    intro q hq
    rw [List.mem_singleton.1 hq]
    decide
  refine ⟨by rw [hcount]; exact hm.counted, hm.kept.imp (fun hawake => ?_) fun hkept => ?_⟩
  · exact ⟨hann.trans hawake.1, hcount.trans hawake.2⟩
  · rw [annotatedCount?_eq_of_annotation? hann, hkept]

/-- Giving containers their resources keeps the count, and reports none. -/
theorem scaleResources_keeps {m' : Manifest} (hc : c.Keyed) (hm' : c.object? m.key = some m')
    (hsame : SameOffScaling m m') (hcontainers : m'.containers = m.containers)
    (hkeeps : m'.Keeps n) (targets : FiniteMap String ContainerResources) :
    (∃ m'', (scaleResources m targets c).2.object? m.key = some m'' ∧ m''.Keeps n)
      ∧ ∀ o ∈ (scaleResources m targets c).1, o.countBefore = 0 := by
  have ha : c.Addresses m := by
    unfold Addresses
    rw [← hsame.namespaceName_eq, ← hsame.objectKind_eq, ← hsame.name_eq]
    exact hc.keyOf_eq hm'
  unfold scaleResources
  cases hp : resourcesPatch? m targets with
  | none => exact ⟨⟨m', hm', hkeeps⟩, fun o ho => (nomatch ho)⟩
  | some patch =>
      simp only [map_apply, patchObject_eq ha, patch_eq]
      cases hpatched : c.patched m.key patch .strategic with
      | error e =>
          refine ⟨⟨m', hm', hkeeps⟩, fun o ho => ?_⟩
          rw [← Option.mem_some.1 ho]
          rfl
      | ok d =>
          have hmerged : d = ⟨m'.document.strategicMerge patch⟩ := by
            simp only [patched, hm'] at hpatched
            split at hpatched
            · cases hpatched
            · cases hpatched
              rfl
          have hframe := agreeOff_of_resourcesPatch hp hcontainers
          refine ⟨⟨d, object?_holding_self _ _ _, ?_⟩, fun o ho => ?_⟩
          · exact hkeeps.of_agreeOff_containers (by rw [hmerged]; exact hframe)
          · rw [← Option.mem_some.1 ho]

theorem resizeTo_keeps {m' : Manifest} (hc : c.Keyed) (hm' : c.object? m.key = some m')
    (hsame : SameOffScaling m m') (hcontainers : m'.containers = m.containers)
    (hkeeps : m'.Keeps n) (resources : Option (FiniteMap String ContainerResources)) :
    (∃ m'', (resizeTo m resources c).2.object? m.key = some m'' ∧ m''.Keeps n)
      ∧ ∀ o ∈ (resizeTo m resources c).1, o.countBefore = 0 := by
  have hnothing : (∃ m'', c.object? m.key = some m'' ∧ m''.Keeps n)
      ∧ ∀ o ∈ (none : Option ImpactedObject), o.countBefore = 0 :=
    ⟨⟨m', hm', hkeeps⟩, fun o ho => (nomatch ho)⟩
  cases resources with
  | none => exact hnothing
  | some targets =>
      unfold resizeTo
      split
      · exact scaleResources_keeps hc hm' hsame hcontainers hkeeps targets
      · exact hnothing

/-- **No transition but a deletion loses the count of an object.**  It reports the count, or none,
and waking the object up puts the count in place if its patches are accepted. -/
theorem Transition.applyTo_keeps (hc : c.Keyed) (hm : c.object? m.key = some m) (ht : t ≠ .delete)
    (store : Bool) (hkeeps : m.Keeps n) (hn : 0 < n.toInt)
    (hhist : ∀ n', hist.countBefore? m.key.text = some n' → 0 < n'.toInt → n' = n) :
    (∃ m', (t.applyTo store hist m c).2.object? m.key = some m' ∧ m'.Keeps n
        ∧ (t = .unhibernate → c.Accepts m.key → m'.IsAwake n))
      ∧ ∀ o ∈ (t.applyTo store hist m c).1.1, o.countBefore = n ∨ o.countBefore = 0 := by
  have hplain : ∀ {t : Transition} {r : (List ImpactedObject × List ExcludedObject) × Cluster},
      t ≠ .delete → Handled t store hist c m r →
        (∃ m', r.2.object? m.key = some m' ∧ m'.Keeps n
          ∧ (t = .unhibernate → c.Accepts m.key → m'.IsAwake n))
        ∧ ∀ o ∈ r.1.1, o.countBefore = n := by
    intro t r ht hhandled
    obtain ⟨m', hm', hkept, hright, hwakes⟩ := hhandled.effect.keeps ht hkeeps hn hhist
    exact ⟨⟨m', hm', hkept, hwakes⟩, hright⟩
  cases t with
  | delete => exact absurd rfl ht
  | hibernate =>
      obtain ⟨hafter, hright⟩ :=
        hplain ht (applyTo_handled (t := .hibernate) hc.addressable hm trivial store hist)
      exact ⟨hafter, fun o ho => .inl (hright o ho)⟩
  | unhibernate =>
      obtain ⟨hafter, hright⟩ :=
        hplain ht (applyTo_handled (t := .unhibernate) hc.addressable hm trivial store hist)
      exact ⟨hafter, fun o ho => .inl (hright o ho)⟩
  | scale replicas resources =>
      -- First the number of replicas is changed, then the resources are.
      have hscaled := scaleTo_handled hc.addressable hm replicas store hist
      obtain ⟨m', hm', hsame, hcontainers⟩ := hscaled.effect.containers_of_scale
      obtain ⟨⟨m'', hm'', hkept, -⟩, hright⟩ := hplain (by simp) hscaled
      obtain rfl : m'' = m' := Option.some.inj (hm''.symm.trans hm')
      obtain ⟨⟨d, hd, hdkept⟩, hnone⟩ :=
        resizeTo_keeps ((hscaled.alike (by simp)).keyed hc) hm' hsame hcontainers hkept resources
      rw [applyTo_scale]
      refine ⟨⟨d, hd, hdkept, fun hwaking => by cases hwaking⟩, fun o ho => ?_⟩
      rcases List.mem_append.1 ho with ho | ho
      · exact .inl (hright o ho)
      · exact .inr (hnone o (Option.mem_toList.1 ho))

/-! ### One object in a cluster -/

namespace Cluster

/-- The object of a key is there and keeps the count. -/
def KeepsAt (c : Cluster) (k : ObjectKey) (n : Int32) : Prop :=
  ∃ m, c.object? k = some m ∧ m.Keeps n

/-- The object of a key is there and awake with the count. -/
def AwakeAt (c : Cluster) (k : ObjectKey) (n : Int32) : Prop :=
  ∃ m, c.object? k = some m ∧ m.IsAwake n

instance (c : Cluster) (k : ObjectKey) (n : Int32) : Decidable (c.AwakeAt k n) :=
  inferInstanceAs (Decidable (∃ m, c.object? k = some m ∧ m.IsAwake n))

/-- A transition of the rules would scale the object of a key. -/
def Reaches (c : Cluster) (rules : List Rule) (k : ObjectKey) : Prop :=
  ∃ m, c.CanScale rules m ∧ m.key = k

theorem AwakeAt.keepsAt (h : c.AwakeAt k n) : c.KeepsAt k n := by
  obtain ⟨m, hm, hawake⟩ := h
  exact ⟨m, hm, IsAwake.keeps hawake⟩

theorem Alike.reaches_iff {rules : List Rule} (h : Alike c c') (hc : c.Keyed)
    (hrules : ∀ r ∈ rules, r.IsPlain) : c.Reaches rules k ↔ c'.Reaches rules k := by
  constructor
  · rintro ⟨m, hm, rfl⟩
    obtain ⟨m', hm', hsame⟩ := h.canScale hc hrules hm
    exact ⟨m', hm', hsame.key_eq⟩
  · rintro ⟨m', hm', rfl⟩
    obtain ⟨m, hm, hsame⟩ := h.symm.canScale (h.keyed hc) hrules hm'
    exact ⟨m, hm, hsame.key_eq⟩

end Cluster

/-- What is recorded of the object of a key is its count, or none. -/
def ImpactedObject.Gives (k : ObjectKey) (n : Int32) (o : ImpactedObject) : Prop :=
  o.key = k.text → o.countBefore = n ∨ o.countBefore = 0

/-- A positive count that is looked up in such records is that of the object. -/
theorem Records.eq_of_countBefore? (h : Records hist.entries (ImpactedObject.Gives k n))
    {n' : Int32} (hn' : hist.countBefore? k.text = some n') (hpos : 0 < n'.toInt) : n' = n := by
  obtain ⟨r, hr, o, ho, hkey, rfl⟩ := History.exists_of_countBefore? hn'
  rcases h r hr o ho hkey with hright | hzero
  · exact hright
  · rw [hzero] at hpos
    exact absurd hpos (by decide)

/-! ### Groups of rules -/

section

variable {now : Instant} {s : Spec} {rules : List Rule} {report : Report} {reports : List Report}
  {isActive : Bool} {range : Option Nat}

/-- From `c` to `c'` the object of a key was treated as transitions other than deletions do. It
keeps its count, and the reports give that. Unless the object was `reached` nothing happened to it,
and if nothing was done but waking up, then it is awake if it was reached or was awake before. -/
structure Treats (k : ObjectKey) (n : Int32) (reached : Prop) (reports : List Report)
    (c c' : Cluster) : Prop where
  alike : Alike c c'
  refusedPatches_eq : c'.refusedPatches = c.refusedPatches
  kept : c'.KeepsAt k n
  right : ∀ r ∈ reports, ∀ o ∈ r.impacted, o.Gives k n
  spared : ¬ reached → c'.object? k = c.object? k
  woken : (∀ r ∈ reports, r.action = .unhibernate) → c.Accepts k → reached ∨ c.AwakeAt k n →
    c'.AwakeAt k n

namespace Treats

variable {reached reached' : Prop} {reports' : List Report}

theorem refl (h : c.KeepsAt k n) : Treats k n False [] c c where
  alike := .refl c
  refusedPatches_eq := rfl
  kept := h
  right := fun _ hr => (nomatch hr)
  spared := fun _ => rfl
  woken := fun _ _ hawake => hawake.resolve_left id

theorem trans (h : Treats k n reached reports c c') (h' : Treats k n reached' reports' c' c'') :
    Treats k n (reached ∨ reached') (reports ++ reports') c c'' where
  alike := h.alike.trans h'.alike
  refusedPatches_eq := h'.refusedPatches_eq.trans h.refusedPatches_eq
  kept := h'.kept
  right := by
    intro r hr
    rcases List.mem_append.1 hr with hr | hr
    · exact h.right r hr
    · exact h'.right r hr
  spared := by
    intro hnot
    rw [h'.spared fun hr => hnot (.inr hr), h.spared fun hr => hnot (.inl hr)]
  woken := by
    intro hwaking haccepts hreached
    have haccepts' : c'.Accepts k := by
      unfold Accepts
      rw [h.refusedPatches_eq]
      exact haccepts
    have hfirst := h.woken (fun r hr => hwaking r (List.mem_append_left _ hr)) haccepts
    refine h'.woken (fun r hr => hwaking r (List.mem_append_right _ hr)) haccepts' ?_
    rcases hreached with (hreached | hreached) | hawake
    · exact .inr (hfirst (.inl hreached))
    · exact .inl hreached
    · exact .inr (hfirst (.inr hawake))

theorem congr (h : Treats k n reached reports c c') (hiff : reached ↔ reached') :
    Treats k n reached' reports c c' := by
  rw [← propext hiff]
  exact h

end Treats

/-- Only waking up is recorded as waking up. -/
theorem Transition.eq_unhibernate_of_action (h : t.action = .unhibernate) : t = .unhibernate := by
  cases t <;> first | rfl | cases h

/-- What a step of a run does to an object that it handles. -/
theorem Ran.keeps_of_step {seen : List ObjectKey} {targets : List Manifest} {steps : List Step}
    {step : Step} (hran : Ran t store hist c seen targets c steps c') (ht : t ≠ .delete)
    (hm : c.object? m.key = some m) (hkeeps : m.Keeps n) (hn : 0 < n.toInt)
    (hhist : Records hist.entries (ImpactedObject.Gives m.key n)) (hstep : step ∈ steps)
    (hkey : step.object.key = m.key) :
    (∃ m', c'.object? m.key = some m' ∧ m'.Keeps n
        ∧ (t = .unhibernate → c.Accepts m.key → m'.IsAwake n))
      ∧ ∀ o ∈ step.impacted, o.countBefore = n ∨ o.countBefore = 0 := by
  obtain ⟨c₁, hc₁, hrefused, -, hnow, hout, hafter⟩ := hran.done step hstep
  obtain rfl : step.object = m := hran.object_eq_of_key hstep hm hkey
  obtain ⟨⟨m', hm', hkept, hwakes⟩, hright⟩ :=
    t.applyTo_keeps hc₁ hnow ht store hkeeps hn fun n' => hhist.eq_of_countBefore?
  rw [hout] at hright
  refine ⟨⟨m', hafter.trans hm', hkept, fun hwaking haccepts => hwakes hwaking ?_⟩, hright⟩
  unfold Accepts
  rw [hrefused]
  exact haccepts

/-- **One group.**  A group of rules whose transition is not a deletion treats an object with a
count. -/
theorem executeGroup_treats (hc : c.Keyed) (hrules : ∀ r ∈ rules, r.IsPlain)
    (hrun : executeGroup now s t rules hist c = .ok (report, c')) (ht : t ≠ .delete)
    (hn : 0 < n.toInt) (hhist : Records hist.entries (ImpactedObject.Gives k n))
    (hk : c.KeepsAt k n) : Treats k n (c.Reaches rules k) [report] c c' := by
  have haction := executeGroup_action hc hrun
  obtain ⟨all, hall, hselects, hreport, rfl⟩ := executeGroup_ok hc hrun
  obtain ⟨steps, hsteps, hran⟩ := executeGroup_ran hc hselects t s.storeDeleted hist
  obtain ⟨m, hm, hkeeps⟩ := hk
  obtain rfl := hc.key_eq hm
  have hhandled := fun (step : Step) (hstep : step ∈ steps) =>
    hran.keeps_of_step ht hm hkeeps hn hhist hstep
  have hother := fun (hnot : m.key ∉ stepKeys steps) => hran.touches.object?_eq _ hnot
  refine ⟨hran.alike ht, hran.touches.refusedPatches_eq, ?_, fun r hr o ho htext => ?_,
    fun hnot => hother fun hmem => hnot ?_, fun hwaking haccepts hreached => ?_⟩
  · by_cases hmem : m.key ∈ stepKeys steps
    · obtain ⟨step, hstep, hkey⟩ := List.mem_map.1 hmem
      obtain ⟨⟨m', hm', hkept, -⟩, -⟩ := hhandled step hstep hkey
      exact ⟨m', hm', hkept⟩
    · exact ⟨m, (hother hmem).trans hm, hkeeps⟩
  · -- What is reported under the key of the object is about it.
    rw [List.mem_singleton.1 hr, hreport, Report.adding, hsteps, List.append_nil] at ho
    obtain ⟨step, hstep, ho⟩ := List.mem_flatMap.1 ho
    exact (hhandled step hstep (hran.key_eq_of_reported hc hm hstep ho htext)).2 o ho
  · obtain ⟨step, hstep, hkey⟩ := List.mem_map.1 hmem
    exact ⟨step.object, hran.canScale ht hc hall hselects hstep, hkey⟩
  · have hwakes : t = .unhibernate :=
      Transition.eq_unhibernate_of_action (haction ▸ hwaking _ List.mem_cons_self)
    by_cases hmem : m.key ∈ stepKeys steps
    · obtain ⟨step, hstep, hkey⟩ := List.mem_map.1 hmem
      obtain ⟨⟨m', hm', -, hawake⟩, -⟩ := hhandled step hstep hkey
      exact ⟨m', hm', hawake hwakes haccepts⟩
    · rcases hreached with ⟨m', hm', hkey⟩ | ⟨m', hm', hawake⟩
      · obtain ⟨step, hstep, rfl⟩ := hran.exists_step ht hc hrules hselects hm'
        exact absurd (List.mem_map.2 ⟨step, hstep, hkey⟩) hmem
      · exact ⟨m', (hother hmem).trans hm', hawake⟩

/-- Only the action to delete is resolved to a deletion, and every other one to some transition. -/
theorem Transition.exists_resolve {action : Action} (ha : action ≠ .delete) (isActive : Bool)
    (s : Spec) (range : Option Nat) :
    ∃ t, resolve action isActive s range = some t ∧ t ≠ .delete := by
  cases action <;> cases isActive <;> first | exact absurd rfl ha | exact ⟨_, rfl, by simp⟩

/-- **Several groups.**  Groups that do not delete treat an object with a count. There is a report
for each. -/
theorem executeGroups_treats {groups : List (Action × List Rule)} (hc : c.Keyed)
    (hgroups : ∀ g ∈ groups, g.1 ≠ .delete ∧ ∀ r ∈ g.2, r.IsPlain)
    (hrun : executeGroups now s isActive range hist groups c = .ok (reports, c'))
    (hn : 0 < n.toInt) (hhist : Records hist.entries (ImpactedObject.Gives k n))
    (hk : c.KeepsAt k n) :
    Treats k n (∃ g ∈ groups, c.Reaches g.2 k) reports c c' := by
  induction groups generalizing c reports with
  | nil =>
      cases hrun
      exact (Treats.refl hk).congr (by simp)
  | cons group groups ih =>
      obtain ⟨action, rules⟩ := group
      obtain ⟨haction, hrules⟩ := hgroups _ List.mem_cons_self
      obtain ⟨t, ht, hdelete⟩ := Transition.exists_resolve haction isActive s range
      obtain ⟨report, c₁, reports', hgroup, hrest, rfl⟩ := (executeGroups_cons_ok ht).1 hrun
      have hfirst := executeGroup_treats hc hrules hgroup hdelete hn hhist hk
      have hgroups' := fun g hg => hgroups g (List.mem_cons_of_mem _ hg)
      have hothers := ih (hfirst.alike.keyed hc) hgroups' hrest hfirst.kept
      refine (hfirst.trans hothers).congr ?_
      -- The later groups reach in what the first one left what they would have reached before.
      have hsame : (∃ g ∈ groups, c₁.Reaches g.2 k) ↔ ∃ g ∈ groups, c.Reaches g.2 k :=
        exists_congr fun g => and_congr_right fun hg =>
          (hfirst.alike.reaches_iff hc (hgroups' g hg).2).symm
      rw [hsame]
      simp

end

end Slumber
