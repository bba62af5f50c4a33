import Mathlib.Data.List.Nodup
import Slumber.Proofs.Transition.Runs

/-!
# Reports are truthful

What a run reports of an object is what happened to it, and what is not reported did not happen,
but for annotations that waking up takes away where the number of replicas was right already.

* `Effect.summary` — what one reported object, or none, says about the object that was handled;
* `Transition.key_of_mem_applyTo` — what is reported of an object is reported under its key;
* `Transition.run_truthful` — the report of a whole run against the clusters before and after it.
-/

namespace Slumber

open Cluster Manifest

variable {t : Transition} {store : Bool} {h : History}

/-- The number of replicas that a reported object has after a success: the target, or the reported
number when objects are woken up. -/
def Transition.newCount (t : Transition) (o : ImpactedObject) : Int32 :=
  t.target?.getD o.countBefore

/-- The object is a target, or an autoscaler that can be listed and governs one. -/
def Cluster.IsScaledFor (c : Cluster) (targets : List Manifest) (m : Manifest) : Prop :=
  ∃ target ∈ targets, m = target
    ∨ m ∈ c.autoscalersIn target.namespaceName ∧ governs m target = true

/-- What a reported object says is what happened: a success means the object is gone or has the new
number of replicas, and an error means that nothing happened to it. -/
def ImpactedObject.IsTrue (t : Transition) (m : Manifest) (after : Option Manifest)
    (o : ImpactedObject) : Prop :=
  match o.status with
  | .success =>
    if t = .delete then after = none
    else ∃ m', after = some m' ∧ m'.replicaCount? = some (t.newCount o).toInt
  | .error => after = some m

/-- **One object.**  Whatever the case, an object is reported at most once and truthfully; one that
is not reported is as it was, or has lost its annotation by being woken up. -/
theorem Effect.summary {accepts : Prop} {m : Manifest} {after : Option Manifest}
    {impacted : List ImpactedObject} {excluded : List ExcludedObject}
    (he : Effect t store h accepts m after impacted excluded) :
    (∃ o, impacted = [o] ∧ o.key = m.key.text ∧ o.IsTrue t m after)
    ∨ impacted = [] ∧ (after = some m
        ∨ t = .unhibernate ∧ ∃ m', after = some m' ∧ m.Cleaned m') := by
  cases he with
  | unscaled => exact .inr ⟨rfl, .inl rfl⟩
  | @scaled n before p m' ht hp hm' =>
      refine .inl ⟨_, rfl, rfl, ?_⟩
      have hne : t ≠ .delete := by
        rintro rfl
        cases ht
      show if t = .delete then _ else _
      rw [if_neg hne]
      refine ⟨m', rfl, ?_⟩
      rw [hm'.count, Transition.newCount, ht]
      rfl
  | scaleFailed => exact .inl ⟨_, rfl, rfl, rfl⟩
  | uncounted => exact .inr ⟨rfl, .inl rfl⟩
  | unknown => exact .inr ⟨rfl, .inl rfl⟩
  | awake => exact .inr ⟨rfl, .inl rfl⟩
  | cleaned ht _ _ _ hm' => exact .inr ⟨rfl, .inr ⟨ht, _, rfl, hm'⟩⟩
  | cleanupFailed => exact .inr ⟨rfl, .inl rfl⟩
  | @restored n count m' ht _ _ _ hm' =>
      refine .inl ⟨_, rfl, rfl, ?_⟩
      subst ht
      exact ⟨m', rfl, hm'.count⟩
  | restoreFailed => exact .inl ⟨_, rfl, rfl, rfl⟩
  | deleted ht =>
      subst ht
      exact .inl ⟨_, rfl, rfl, rfl⟩

/-! ### The keys of reported objects -/

section

variable {m : Manifest} {c : Cluster} {o : ImpactedObject}

theorem patchObject_key (m : Manifest) (patch : Json) (flavour : PatchKind) (o : ImpactedObject)
    (c : Cluster) : (patchObject m patch flavour o c).1.key = o.key := by
  simp only [patchObject, bind_apply]
  cases (ResourceClient.patch m.namespaceName m.objectKind m.name patch flavour c).1 <;> rfl

theorem key_of_mem_scaleReplicas {n : Int32} (ho : o ∈ (scaleReplicas m n c).1.toList) :
    o.key = m.key.text := by
  unfold scaleReplicas at ho
  cases hp : replicaPatch? m n with
  | none =>
      rw [hp] at ho
      cases ho
  | some pb =>
      rw [hp] at ho
      rw [List.mem_singleton.1 ho]
      exact patchObject_key m _ _ _ c

theorem key_of_mem_scaleResources {targets : FiniteMap String ContainerResources}
    (ho : o ∈ (scaleResources m targets c).1.toList) : o.key = m.key.text := by
  unfold scaleResources at ho
  cases hp : resourcesPatch? m targets with
  | none =>
      rw [hp] at ho
      cases ho
  | some patch =>
      rw [hp] at ho
      rw [List.mem_singleton.1 ho]
      exact patchObject_key m _ _ _ c

theorem key_of_mem_resizeTo {resources : Option (FiniteMap String ContainerResources)}
    (ho : o ∈ (resizeTo m resources c).1.toList) : o.key = m.key.text := by
  unfold resizeTo at ho
  split at ho
  · split at ho
    · exact key_of_mem_scaleResources ho
    · cases ho
  · cases ho

/-- What a transition reports of an object it acted upon is reported under the key of that
object. -/
theorem Transition.key_of_mem_applyTo (hc : c.Keyed) (hm : c.object? m.key = some m)
    (t : Transition) (store : Bool) (h : History) (ho : o ∈ (t.applyTo store h m c).1.1) :
    o.key = m.key.text := by
  have hreported : t.KeepsResources → o.key = m.key.text := fun ht => by
    rcases (applyTo_handled hc.addressable hm ht store h).effect.summary with
      ⟨o', heq, hkey, -⟩ | ⟨heq, -⟩
    · rw [heq] at ho
      rw [List.mem_singleton.1 ho, hkey]
    · rw [heq] at ho
      cases ho
  cases t with
  | hibernate | unhibernate | delete => exact hreported trivial
  | scale replicas resources =>
      rw [applyTo_scale] at ho
      rcases List.mem_append.1 ho with ho | ho
      · unfold scaleTo at ho
        split at ho
        · exact key_of_mem_scaleReplicas ho
        · cases ho
      · exact key_of_mem_resizeTo ho

end

/-! ### Runs -/

/-- What stands in for a target is scaled for it. -/
theorem Cluster.isScaledFor_standIn {c : Cluster} {targets : List Manifest} {target : Manifest}
    (htarget : target ∈ targets) : c.IsScaledFor targets (t.standIn c target) := by
  refine ⟨target, htarget, ?_⟩
  unfold Transition.standIn Cluster.standIn
  split
  · exact .inl rfl
  · split
    · exact .inl rfl
    · cases hfind : (c.autoscalersIn target.namespaceName).find? (governs · target) with
      | none => exact .inl rfl
      | some a => exact .inr ⟨List.mem_of_find?_eq_some hfind, by simpa using List.find?_some hfind⟩

section

variable {c c' : Cluster} {targets : List Manifest} {steps : List Step}

/-- Every handled object is stored and scaled for a target. -/
theorem Ran.isScaledFor (hran : Ran t store h c [] targets c steps c') (hc : c.Keyed)
    (htargets : ∀ m ∈ targets, c.object? m.key = some m) {s : Step} (hs : s ∈ steps) :
    c.object? s.object.key = some s.object ∧ c.IsScaledFor targets s.object := by
  obtain ⟨target, htarget, hobject⟩ := hran.object_eq hc htargets hs
  obtain ⟨-, -, -, hstored, -⟩ := hran.done s hs
  exact ⟨hstored, hobject ▸ isScaledFor_standIn htarget⟩

/-- Every handled object is reported at most once, under its key. -/
theorem Ran.keys_sublist (hran : Ran t store h c [] targets c steps c')
    (ht : t.KeepsResources) :
    ((steps.flatMap (·.impacted)).map (·.key)).Sublist ((stepKeys steps).map (·.text)) := by
  have hdone := hran.done
  clear hran
  induction steps with
  | nil => exact .slnil
  | cons s steps ih =>
      have hrest := ih fun s' hs' => hdone s' (List.mem_cons_of_mem _ hs')
      rw [List.flatMap_cons, List.map_append]
      show List.Sublist _ (s.object.key.text :: (stepKeys steps).map (·.text))
      rcases ((hdone s List.mem_cons_self).effect ht).summary with ⟨o, ho, hkey, -⟩ | ⟨ho, -⟩
      · rw [ho, ← hkey]
        exact hrest.cons_cons _
      · rw [ho]
        exact hrest.cons _

/-- What is reported under the key of a held object was done to that object. -/
theorem Ran.key_eq_of_reported (hran : Ran t store h c [] targets c steps c') (hc : c.Keyed)
    {m : Manifest} (hm : c.object? m.key = some m) {s : Step} (hs : s ∈ steps) {o : ImpactedObject}
    (ho : o ∈ s.impacted) (htext : o.key = m.key.text) : s.object.key = m.key := by
  obtain ⟨c₁, hc₁, -, hstart, hnow, hout, -⟩ := hran.done s hs
  have hkey : o.key = s.object.key.text :=
    t.key_of_mem_applyTo hc₁ hnow store h (by rw [hout]; exact ho)
  exact hc.text_injective hstart hm (hkey.symm.trans htext)

/-- The texts of the keys of handled objects are distinct. -/
theorem Ran.texts_nodup (hran : Ran t store h c [] targets c steps c') (hc : c.Keyed) :
    ((stepKeys steps).map (·.text)).Nodup := by
  refine List.Nodup.map_on ?_ hran.nodup
  intro k hk k' hk' htext
  obtain ⟨s, hs, rfl⟩ := List.mem_map.1 hk
  obtain ⟨s', hs', rfl⟩ := List.mem_map.1 hk'
  obtain ⟨-, -, -, hm, -⟩ := hran.done s hs
  obtain ⟨-, -, -, hm', -⟩ := hran.done s' hs'
  exact hc.text_injective hm hm' htext

end

/-- **Truthfulness.**  Let a transition that leaves resources alone be run on objects of a keyed
cluster, whatever the history says and whichever patches and listings are refused. Then

* the reported keys are distinct;
* each belongs to a stored object that is a target or a listed autoscaler governing one, and says
  what became of it;
* every object that is not reported is as it was, apart from an annotation that waking up took away
  from one of the scaled objects;
* no object came into being. -/
theorem Transition.run_truthful (c : Cluster) (hc : c.Keyed) (t : Transition)
    (ht : t.KeepsResources) (store : Bool) (targets : List Manifest) (h : History)
    (htargets : ∀ m ∈ targets, c.object? m.key = some m) :
    let r := t.run store targets h c
    (r.1.impacted.map (·.key)).Nodup
    ∧ (∀ o ∈ r.1.impacted, ∃ m, c.object? m.key = some m ∧ o.key = m.key.text
        ∧ c.IsScaledFor targets m ∧ o.IsTrue t m (r.2.object? m.key))
    ∧ (∀ k, (∀ o ∈ r.1.impacted, o.key ≠ k.text) → r.2.object? k = c.object? k
        ∨ t = .unhibernate ∧ ∃ m m', c.object? k = some m ∧ r.2.object? k = some m'
          ∧ c.IsScaledFor targets m ∧ m.Cleaned m')
    ∧ ∀ k, c.object? k = none → r.2.object? k = none := by
  obtain ⟨steps, hreport, hran⟩ := run_ran hc t store h htargets
  intro r
  have himpacted : r.1.impacted = steps.flatMap (·.impacted) := by
    show (t.run store targets h c).1.impacted = _
    rw [hreport]
  have hsummary := fun s hs => ((hran.done s hs).effect ht).summary
  refine ⟨?_, ?_, ?_, ?_⟩
  · rw [himpacted]
    exact (hran.texts_nodup hc).sublist (hran.keys_sublist ht)
  · intro o ho
    rw [himpacted] at ho
    obtain ⟨s, hs, hos⟩ := List.mem_flatMap.1 ho
    obtain ⟨hstored, hscaled⟩ := hran.isScaledFor hc htargets hs
    rcases hsummary s hs with ⟨o', ho', hkey, htrue⟩ | ⟨hnone, -⟩
    · rw [ho', List.mem_singleton] at hos
      subst hos
      exact ⟨s.object, hstored, hkey, hscaled, htrue⟩
    · rw [hnone] at hos
      cases hos
  · intro k hk
    by_cases hkey : k ∈ stepKeys steps
    · obtain ⟨s, hs, rfl⟩ := List.mem_map.1 hkey
      obtain ⟨hstored, hscaled⟩ := hran.isScaledFor hc htargets hs
      rcases hsummary s hs with ⟨o, ho, hokey, -⟩ | ⟨-, hsame | ⟨hwaking, m', hm', hcleaned⟩⟩
      · refine absurd hokey (hk o ?_)
        rw [himpacted]
        exact List.mem_flatMap.2 ⟨s, hs, by rw [ho]; exact List.mem_singleton_self o⟩
      · exact .inl (hsame.trans hstored.symm)
      · exact .inr ⟨hwaking, s.object, m', hstored, hm', hscaled, hcleaned⟩
    · exact .inl (hran.touches.object?_eq k hkey)
  · intro k hk
    rw [← hk]
    refine hran.touches.object?_eq k fun hkey => ?_
    obtain ⟨s, hs, rfl⟩ := List.mem_map.1 hkey
    obtain ⟨hstored, -⟩ := hran.isScaledFor hc htargets hs
    rw [hk] at hstored
    cases hstored

/-! ### An instance -/

/-- A workload with three replicas. -/
def sampleWorkload : Manifest :=
  ⟨.obj
    [("apiVersion", .str "apps/v1"), ("kind", .str "Deployment"),
     ("metadata", .obj [("name", .str "web"), ("namespace", .str "shop")]),
     ("spec", .obj [("replicas", .int 3)])]⟩

/-- An autoscaler that governs the workload. -/
def sampleAutoscaler : Manifest :=
  ⟨.obj
    [("apiVersion", .str "autoscaling/v2"), ("kind", .str "HorizontalPodAutoscaler"),
     ("metadata", .obj [("name", .str "web"), ("namespace", .str "shop")]),
     ("spec", .obj
       [("minReplicas", .int 2),
        ("scaleTargetRef", .obj [("kind", .str "Deployment"), ("name", .str "web")])])]⟩

/-- A cluster with the workload and its autoscaler. -/
def sampleCluster : Cluster :=
  { Cluster.standard with
    objects := [(sampleWorkload.key, sampleWorkload), (sampleAutoscaler.key, sampleAutoscaler)] }

theorem sampleCluster_keyed : sampleCluster.Keyed := by decide

theorem object?_sampleWorkload :
    ∀ m ∈ [sampleWorkload], sampleCluster.object? m.key = some m := by decide

/-- Putting the workload to sleep reports its autoscaler, and the workload is as it was. -/
theorem run_truthful_sample :
    sampleCluster.Keyed ∧ Transition.hibernate.KeepsResources
    ∧ (∀ m ∈ [sampleWorkload], sampleCluster.object? m.key = some m)
    ∧ let r := Transition.hibernate.run false [sampleWorkload] ⟨[], 1⟩ sampleCluster
      r.1.impacted = [{ key := sampleAutoscaler.key.text, countBefore := 2 }]
      ∧ r.2.object? sampleWorkload.key = some sampleWorkload := by
  have himpacted : (Transition.hibernate.run false [sampleWorkload] ⟨[], 1⟩
      sampleCluster).1.impacted = [{ key := sampleAutoscaler.key.text, countBefore := 2 }] := by
    decide +kernel
  refine ⟨sampleCluster_keyed, trivial, object?_sampleWorkload, himpacted, ?_⟩
  obtain ⟨-, -, hothers, -⟩ := Transition.run_truthful sampleCluster sampleCluster_keyed .hibernate
    trivial false [sampleWorkload] ⟨[], 1⟩ object?_sampleWorkload
  have hunreported : ∀ o ∈ (Transition.hibernate.run false [sampleWorkload] ⟨[], 1⟩
      sampleCluster).1.impacted, o.key ≠ sampleWorkload.key.text := by
    rw [himpacted]
    decide
  rcases hothers sampleWorkload.key hunreported with hsame | ⟨hwaking, -⟩
  · exact hsame.trans (object?_sampleWorkload _ List.mem_cons_self)
  · cases hwaking

end Slumber
