import Slumber.Proofs.Transition.Frame
import Slumber.Proofs.Transition.Truthful

/-!
# Scaling twice

A transition that scales every object to one count, and leaves resources alone, has done its work
when it ran once. Run again on the same targets, as they are then, it only tries once more what
failed, and fails there again: the count from before that it reports is the same, and no count or
annotation is written over.

* `unseen`, `Transition.handleAll` — the objects that a run handles, and the run as a loop over
  them;
* `Transition.run_eq_handleAll` — that is what a run with its index and its set of keys comes to;
* `Cluster.scaling` — what scaling an object of a cluster reports, and what it makes of it;
* `scaling_again` — the second time: failures are repeated, and all else needs nothing;
* `Transition.handleAll_scaling` — scaling several objects;
* `run_twice` — scaling twice.
-/

namespace Slumber

open Cluster Manifest

variable {t : Transition} {store : Bool} {h : History} {c c' : Cluster} {m : Manifest} {n : Int32}

/-! ### The objects of a run -/

/-- The objects whose keys have not been seen, the first of each key. -/
def unseen (seen : List ObjectKey) : List Manifest → List Manifest
  | [] => []
  | m :: ms => if m.key ∈ seen then unseen seen ms else m :: unseen (m.key :: seen) ms

theorem mem_of_mem_unseen {seen : List ObjectKey} {ms : List Manifest} (h : m ∈ unseen seen ms) :
    m ∈ ms ∧ m.key ∉ seen := by
  induction ms generalizing seen with
  | nil => cases h
  | cons m' ms ih =>
      unfold unseen at h
      split at h
      · exact (ih h).imp_left (List.mem_cons_of_mem _)
      · rename_i hnew
        rcases List.mem_cons.1 h with rfl | h
        · exact ⟨List.mem_cons_self, hnew⟩
        · obtain ⟨hm, hseen⟩ := ih h
          exact ⟨List.mem_cons_of_mem _ hm, fun hk => hseen (List.mem_cons_of_mem _ hk)⟩

theorem nodup_unseen (seen : List ObjectKey) (ms : List Manifest) :
    ((unseen seen ms).map Manifest.key).Nodup := by
  induction ms generalizing seen with
  | nil => exact List.nodup_nil
  | cons m ms ih =>
      unfold unseen
      split
      · exact ih seen
      · refine List.nodup_cons.2 ⟨fun hk => ?_, ih _⟩
        obtain ⟨m', hm', hkey⟩ := List.mem_map.1 hk
        exact (mem_of_mem_unseen hm').2 (hkey ▸ List.mem_cons_self)

/-- Which objects are taken depends on the keys only. -/
theorem unseen_forall₂ {ms ms' : List Manifest}
    (h : List.Forall₂ (fun m m' => m'.key = m.key) ms ms') (seen : List ObjectKey) :
    List.Forall₂ (fun m m' => m'.key = m.key) (unseen seen ms) (unseen seen ms') := by
  induction h generalizing seen with
  | nil => exact .nil
  | @cons m m' ms ms' hkey _ ih =>
      unfold unseen
      rw [hkey]
      split
      · exact ih seen
      · exact .cons hkey (ih _)

/-- Applies a transition to objects, one after the other. -/
def Transition.handleAll (t : Transition) (store : Bool) (h : History) :
    List Manifest → StateM Cluster (List ImpactedObject × List ExcludedObject)
  | [] => pure ([], [])
  | m :: ms => do
    let (impacted, excluded) ← t.applyTo store h m
    let (impacted', excluded') ← t.handleAll store h ms
    return (impacted ++ impacted', excluded ++ excluded')

theorem Transition.handleAll_cons (t : Transition) (store : Bool) (h : History) (m : Manifest)
    (ms : List Manifest) (c : Cluster) :
    t.handleAll store h (m :: ms) c
      = (((t.applyTo store h m c).1.1 ++ (t.handleAll store h ms (t.applyTo store h m c).2).1.1,
          (t.applyTo store h m c).1.2 ++ (t.handleAll store h ms (t.applyTo store h m c).2).1.2),
        (t.handleAll store h ms (t.applyTo store h m c).2).2) := rfl

/-- **A run, object by object.**  In a state in which the invariant of the loop holds, the rest of a
run handles what stands in for the rest of the targets in the beginning, as far as it was not seen,
in the order of the targets. -/
theorem Transition.runFrom_eq_handleAll {c₀ : Cluster} {seen : List ObjectKey} {i : AutoscalerIndex}
    (hc₀ : c₀.Keyed) (targets : List Manifest) (htargets : ∀ m ∈ targets, c₀.object? m.key = some m)
    (hinv : Running t c₀ seen i c) (report : Report) :
    t.runFrom store h targets i seen report c
      = (report.adding
          (t.handleAll store h (unseen seen (targets.map (t.standIn c₀))) c).1.1
          (t.handleAll store h (unseen seen (targets.map (t.standIn c₀))) c).1.2,
        (t.handleAll store h (unseen seen (targets.map (t.standIn c₀))) c).2) := by
  induction targets generalizing i seen c report with
  | nil => simp [runFrom, handleAll, unseen, pure_apply, Report.adding]
  | cons target targets ih =>
      obtain ⟨htarget, hrest⟩ := List.forall_mem_cons.1 htargets
      obtain ⟨object, i', hobject, hinv', hstand, hfresh⟩ := scalingObject_running hinv htarget
      rw [runFrom_cons hobject, List.map_cons, unseen, hstand]
      by_cases hseen : object.key ∈ seen
      · rw [if_pos hseen, if_pos hseen, ih hrest hinv']
      · rw [if_neg hseen, if_neg hseen]
        -- What was not seen is as it was in the beginning, so it is what stood in then.
        have hsame : t.standIn c₀ target = object := by
          have hheld := object?_transition_standIn (t := t) hc₀ htarget
          rw [hstand, hfresh hseen, Option.some.injEq] at hheld
          exact hheld.symm
        have hnow : c.object? object.key = some object :=
          (hinv.touches.object?_eq _ hseen).trans (hfresh hseen)
        rw [ih hrest (hinv'.handle hnow store h), hsame, handleAll_cons]
        simp [Report.adding, List.append_assoc]

theorem Transition.run_eq_handleAll (hc : c.Keyed) (t : Transition) (store : Bool) (h : History)
    {targets : List Manifest} (htargets : ∀ m ∈ targets, c.object? m.key = some m) :
    t.run store targets h c
      = ({ action := t.action,
            impacted := (t.handleAll store h (unseen [] (targets.map (t.standIn c))) c).1.1,
            excluded := (t.handleAll store h (unseen [] (targets.map (t.standIn c))) c).1.2 },
        (t.handleAll store h (unseen [] (targets.map (t.standIn c))) c).2) := by
  rw [run, runFrom_eq_handleAll hc targets htargets (.start t hc)]
  simp [Report.adding]

/-- What the run reports and leaves is what handling its objects gives. -/
theorem Transition.handleAll_eq_run (hc : c.Keyed) (t : Transition) (store : Bool) (h : History)
    {targets : List Manifest} (htargets : ∀ m ∈ targets, c.object? m.key = some m) :
    t.handleAll store h (unseen [] (targets.map (t.standIn c))) c
      = (((t.run store targets h c).1.impacted, (t.run store targets h c).1.excluded),
        (t.run store targets h c).2) := by
  rw [run_eq_handleAll hc t store h htargets]
  rfl

/-! ### Scaling one object -/

/-- What scaling an object of the cluster to a count reports, and what it makes of the object. -/
def Cluster.scaling (c : Cluster) (n : Int32) (m : Manifest) : List ImpactedObject × Manifest :=
  match replicaPatch? m n with
  | none => ([], m)
  | some (p, before) =>
    match c.patched m.key p.toJson .json with
    | .ok m' => ([{ key := m.key.text, countBefore := before }], m')
    | .error e => ([ImpactedObject.failed { key := m.key.text, countBefore := before } e], m)

/-- It depends on the object, and on what the cluster refuses. -/
theorem Cluster.scaling_congr (hrefused : c'.refusedPatches = c.refusedPatches)
    (hobject : c'.object? m.key = c.object? m.key) (n : Int32) :
    c'.scaling n m = c.scaling n m := by
  unfold scaling patched
  rw [hrefused, hobject]

theorem Transition.ne_delete_of_target? (ht : t.target? = some n) : t ≠ .delete := by
  rintro rfl
  cases ht

/-- A transition that scales every object, and leaves resources alone, scales the object. -/
theorem Transition.applyTo_eq_scaleReplicas (ht : t.target? = some n) (hkeeps : t.KeepsResources)
    (store : Bool) (h : History) (m : Manifest) (c : Cluster) :
    t.applyTo store h m c = (((scaleReplicas m n c).1.toList, []), (scaleReplicas m n c).2) := by
  cases t with
  | hibernate =>
      cases ht
      rfl
  | unhibernate => cases ht
  | delete => cases ht
  | scale replicas resources =>
      have hnone : resources = none := hkeeps
      have hsome : replicas = some n := ht
      subst hnone hsome
      rw [applyTo_scale]
      simp [scaleTo, resizeTo, pure_apply]

/-- The step: scaling a held object reports and makes of it what it is to, and sends a patch only if
it reports something. -/
theorem Transition.applyTo_scaling (hc : c.Keyed) (hm : c.object? m.key = some m)
    (ht : t.target? = some n) (hkeeps : t.KeepsResources) (store : Bool) (h : History) :
    (t.applyTo store h m c).1 = ((c.scaling n m).1, [])
    ∧ (t.applyTo store h m c).2.object? m.key = some (c.scaling n m).2
    ∧ TouchesOnly (fun k => k = m.key ∧ (c.scaling n m).1 ≠ []) c (t.applyTo store h m c).2 := by
  rw [applyTo_eq_scaleReplicas ht hkeeps]
  unfold scaling scaleReplicas
  cases replicaPatch? m n with
  | none => exact ⟨rfl, hm, .refl _ c⟩
  | some pb =>
      obtain ⟨p, before⟩ := pb
      have htouches := patch_touchesOnly c m.key p.toJson .json
      simp only [map_apply, patchObject_eq (hc.addresses hm)]
      rw [patch_eq] at htouches ⊢
      cases hpatched : c.patched m.key p.toJson .json with
      | ok m' =>
          rw [hpatched] at htouches
          exact ⟨rfl, object?_holding_self _ _ _,
            htouches.mono fun k hk => ⟨hk, List.cons_ne_nil _ _⟩⟩
      | error e =>
          rw [hpatched] at htouches
          exact ⟨rfl, hm, htouches.mono fun k hk => ⟨hk, List.cons_ne_nil _ _⟩⟩

/-- What a patch that goes through makes of a held object. -/
theorem Cluster.apply_of_patched {k : ObjectKey} {p : Patch} {m' : Manifest}
    (hm : c.object? k = some m) (h : c.patched k p.toJson .json = .ok m') :
    p.apply m.document = .ok m'.document := by
  rcases patch_cases p hm with ⟨d, -, hd, heq⟩ | ⟨e, -, heq⟩
  · rw [patch_eq, h, Prod.mk.injEq, Except.ok.injEq] at heq
    rw [heq.1, hd]
  · rw [patch_eq, h] at heq
    cases heq

/-- An object that was scaled needs no scaling. -/
theorem Manifest.Scaled.replicaPatch?_eq_none {m' : Manifest} {before : Int32}
    (h : Scaled m m' n before) : replicaPatch? m' n = none := by
  unfold replicaPatch?
  rw [h.count]
  simp

/-- **The second time.**  On the same object as scaling has left it, a failure is repeated, with all
that is reported of it, and all else needs nothing. -/
theorem Cluster.scaling_again (hm : c.object? m.key = some m)
    (hrefused : c'.refusedPatches = c.refusedPatches)
    (hm' : c'.object? m.key = some (c.scaling n m).2) :
    (c.scaling n m).2.key = m.key
    ∧ c'.scaling n (c.scaling n m).2
      = ((c.scaling n m).1.filter (·.status = .error), (c.scaling n m).2) := by
  cases hp : replicaPatch? m n with
  | none =>
      have hnothing : ∀ c : Cluster, c.scaling n m = ([], m) := fun c => by rw [scaling, hp]
      rw [hnothing, hnothing]
      exact ⟨rfl, rfl⟩
  | some pb =>
      obtain ⟨p, before⟩ := pb
      cases hpatched : c.patched m.key p.toJson .json with
      | ok m' =>
          have hdone : c.scaling n m = ([{ key := m.key.text, countBefore := before }], m') := by
            simp only [scaling, hp, hpatched]
          have hscaled : Scaled m m' n before := scaled_of_apply hp (apply_of_patched hm hpatched)
          rw [hdone, scaling, hscaled.replicaPatch?_eq_none]
          exact ⟨hscaled.same.key_eq, rfl⟩
      | error e =>
          have hfailed : c.scaling n m
              = ([ImpactedObject.failed { key := m.key.text, countBefore := before } e], m) := by
            simp only [scaling, hp, hpatched]
          rw [hfailed] at hm'
          have hagain := scaling_congr hrefused (hm'.trans hm.symm) n
          rw [hfailed] at hagain ⊢
          exact ⟨rfl, hagain⟩

/-! ### Scaling several objects -/

/-- Scaling held objects with different keys does to each what it does in the beginning. -/
theorem Transition.handleAll_scaling (ht : t.target? = some n) (hkeeps : t.KeepsResources)
    (store : Bool) (h : History) {ms : List Manifest} (hc : c.Keyed)
    (hnodup : (ms.map Manifest.key).Nodup) (hms : ∀ m ∈ ms, c.object? m.key = some m) :
    (t.handleAll store h ms c).1 = (ms.flatMap fun m => (c.scaling n m).1, [])
    ∧ (t.handleAll store h ms c).2.Keyed
    ∧ (∀ m ∈ ms, (t.handleAll store h ms c).2.object? m.key = some (c.scaling n m).2)
    ∧ TouchesOnly (fun k => ∃ m ∈ ms, k = m.key ∧ (c.scaling n m).1 ≠ []) c
        (t.handleAll store h ms c).2 := by
  induction ms generalizing c with
  | nil => exact ⟨rfl, hc, fun m hm => (nomatch hm), .refl _ c⟩
  | cons m ms ih =>
      obtain ⟨hm, hrest⟩ := List.forall_mem_cons.1 hms
      obtain ⟨hfresh, hnodup⟩ := List.nodup_cons.1 hnodup
      obtain ⟨hout, hafter, htouches⟩ := applyTo_scaling hc hm ht hkeeps store h
      have hothers : ∀ m' ∈ ms, (t.applyTo store h m c).2.object? m'.key = c.object? m'.key :=
        fun m' hm' => htouches.object?_eq _ fun hk => hfresh (hk.1 ▸ List.mem_map_of_mem hm')
      have hsame : ∀ m' ∈ ms, (t.applyTo store h m c).2.scaling n m' = c.scaling n m' :=
        fun m' hm' => scaling_congr htouches.refusedPatches_eq (hothers m' hm') n
      obtain ⟨hreport, hkeyed, hobjects, htouches'⟩ := ih (applyTo_keyed hc hm t store h) hnodup
        fun m' hm' => (hothers m' hm').trans (hrest m' hm')
      rw [handleAll_cons, hout, hreport]
      refine ⟨?_, hkeyed, List.forall_mem_cons.2 ⟨?_, fun m' hm' => ?_⟩, ?_⟩
      · rw [List.flatMap_cons, List.flatMap_congr fun m' hm' => congrArg Prod.fst (hsame m' hm')]
        rfl
      · rw [htouches'.object?_eq m.key, hafter]
        rintro ⟨m', hm', hkey, -⟩
        exact hfresh (hkey ▸ List.mem_map_of_mem hm')
      · rw [hobjects m' hm', hsame m' hm']
      · refine (htouches.mono fun k hk => ⟨m, List.mem_cons_self, hk⟩).trans
          (htouches'.mono fun k ⟨m', hm', hk, hreports⟩ => ?_)
        exact ⟨m', List.mem_cons_of_mem _ hm', hk, hsame m' hm' ▸ hreports⟩

/-! ### Running twice -/

/-- Objects that are held in order are given by what is held under each key. -/
theorem Cluster.Filed.objects_eq (hc : c.Filed) (hc' : c'.Filed)
    (h : ∀ k, c'.object? k = c.object? k) : c'.objects = c.objects :=
  hc'.sorted.ext hc.sorted fun (k, m) => by rw [hc'.mem_iff, hc.mem_iff, h]

/-- Scaling deletes nothing. -/
theorem Transition.run_deletions (ht : t.target? = some n) (hkeeps : t.KeepsResources)
    (store : Bool) (targets : List Manifest) (h : History) (c : Cluster) :
    (t.run store targets h c).2.deletions = c.deletions := by
  refine run_preserves (P := fun c' => c'.deletions = c.deletions) (fun object c' hc' => ?_)
    targets rfl
  rw [applyTo_eq_scaleReplicas ht hkeeps, ← hc']
  unfold scaleReplicas
  cases replicaPatch? object n with
  | none => rfl
  | some pb =>
      show (patchObject object pb.1.toJson .json _ c').2.deletions = c'.deletions
      rw [patchObject_state, patch_eq]
      cases c'.patched _ pb.1.toJson .json <;> rfl

/-- Every object that is held in a cluster can be read again from one that is alike, and is then the
same but for what transitions change. -/
theorem Cluster.Alike.read_again (h : Alike c c') {targets : List Manifest}
    (htargets : ∀ m ∈ targets, c.object? m.key = some m) :
    List.Forall₂ SameOffScaling targets (targets.filterMap fun m => c'.object? m.key) := by
  induction targets with
  | nil => exact .nil
  | cons m targets ih =>
      obtain ⟨hm, hrest⟩ := List.forall_mem_cons.1 htargets
      obtain ⟨m', hm', hsame⟩ := h.object? hm
      have hcons : (m :: targets).filterMap (fun m => c'.object? m.key)
          = m' :: targets.filterMap fun m => c'.object? m.key := List.filterMap_cons_some hm'
      rw [hcons]
      exact .cons hsame (ih hrest)

theorem key_of_mem_scaling {o : ImpactedObject} (ho : o ∈ (c.scaling n m).1) :
    o.key = m.key.text := by
  unfold scaling at ho
  cases hp : replicaPatch? m n with
  | none => simp [hp] at ho
  | some pb =>
      cases hpatched : c.patched m.key pb.1.toJson .json with
      | ok m' =>
          simp only [hp, hpatched, List.mem_singleton] at ho
          rw [ho]
      | error e =>
          simp only [hp, hpatched, List.mem_singleton] at ho
          exact ho ▸ rfl

/-- Scaling held objects with different keys, and then what that has made of them. -/
theorem Transition.handleAll_twice (ht : t.target? = some n) (hkeeps : t.KeepsResources)
    (store : Bool) (h : History) {ms : List Manifest} (hc : c.Keyed)
    (hnodup : (ms.map Manifest.key).Nodup) (hms : ∀ m ∈ ms, c.object? m.key = some m)
    {r r' : (List ImpactedObject × List ExcludedObject) × Cluster}
    (hr : t.handleAll store h ms c = r)
    (hr' : t.handleAll store h (ms.map fun m => (c.scaling n m).2) r.2 = r') :
    r'.1 = (r.1.1.filter (·.status = .error), []) ∧ r'.2.objects = r.2.objects
    ∧ ∃ new, r'.2.patches = r.2.patches ++ new
      ∧ ∀ p ∈ new, ∃ o ∈ r.1.1, o.status = .error ∧ o.key = p.key.text := by
  obtain ⟨hreport, hkeyed, hobjects, htouches⟩ := handleAll_scaling ht hkeeps store h hc hnodup hms
  rw [hr] at hreport hkeyed hobjects htouches
  have hagain : ∀ m ∈ ms, (c.scaling n m).2.key = m.key ∧ r.2.scaling n (c.scaling n m).2
      = ((c.scaling n m).1.filter (·.status = .error), (c.scaling n m).2) := fun m hm =>
    scaling_again (hms m hm) htouches.refusedPatches_eq (hobjects m hm)
  have hkeys : (ms.map fun m => (c.scaling n m).2).map Manifest.key = ms.map Manifest.key := by
    rw [List.map_map]
    exact List.map_congr_left fun m hm => (hagain m hm).1
  have hleft : ∀ m' ∈ ms.map fun m => (c.scaling n m).2, r.2.object? m'.key = some m' := by
    intro m' hm'
    obtain ⟨m, hm, rfl⟩ := List.mem_map.1 hm'
    rw [(hagain m hm).1, hobjects m hm]
  obtain ⟨hreport', hkeyed', hobjects', htouches'⟩ :=
    handleAll_scaling ht hkeeps store h hkeyed (hkeys.symm ▸ hnodup) hleft
  rw [hr'] at hreport' hkeyed' hobjects' htouches'
  refine ⟨?_, hkeyed.filed.objects_eq hkeyed'.filed fun k => ?_, ?_⟩
  · rw [hreport', hreport, List.flatMap_map, List.filter_flatMap]
    exact congrArg (·, []) (List.flatMap_congr fun m hm => congrArg Prod.fst (hagain m hm).2)
  · by_cases hk : ∃ m ∈ ms, (c.scaling n m).2.key = k
    · obtain ⟨m, hm, rfl⟩ := hk
      rw [hobjects' _ (List.mem_map_of_mem hm), (hagain m hm).2, (hagain m hm).1, hobjects m hm]
    · refine htouches'.object?_eq k fun ⟨m', hm', hkey, _⟩ => hk ?_
      obtain ⟨m, hm, rfl⟩ := List.mem_map.1 hm'
      exact ⟨m, hm, hkey.symm⟩
  · obtain ⟨new, hnew, hpatched⟩ := htouches'.patches
    refine ⟨new, hnew, fun p hp => ?_⟩
    obtain ⟨m', hm', hkey, hreports⟩ := hpatched p hp
    obtain ⟨m, hm, rfl⟩ := List.mem_map.1 hm'
    rw [(hagain m hm).2] at hreports
    obtain ⟨o, ho⟩ := List.exists_mem_of_ne_nil _ hreports
    obtain ⟨hmem, hstatus⟩ := List.mem_filter.1 ho
    refine ⟨o, ?_, of_decide_eq_true hstatus, ?_⟩
    · rw [hreport]
      exact List.mem_flatMap.2 ⟨m, hm, hmem⟩
    · rw [key_of_mem_scaling hmem, hkey, (hagain m hm).1]

/-- Objects of a cluster that are held under the keys of others. -/
theorem eq_map_of_forall₂ {ms ms' : List Manifest} {f : Manifest → Manifest}
    (h : List.Forall₂ (fun m m' => m'.key = m.key) ms ms')
    (hms : ∀ m ∈ ms, c.object? m.key = some (f m)) (hms' : ∀ m ∈ ms', c.object? m.key = some m) :
    ms' = ms.map f := by
  induction h with
  | nil => rfl
  | @cons m m' ms ms' hkey _ ih =>
      obtain ⟨hm, hms⟩ := List.forall_mem_cons.1 hms
      obtain ⟨hm', hms'⟩ := List.forall_mem_cons.1 hms'
      rw [hkey, hm, Option.some.injEq] at hm'
      rw [List.map_cons, hm', ih hms hms']

/-- The objects of a run are held. -/
theorem object?_of_mem_unseen (hc : c.Keyed) {targets : List Manifest}
    (htargets : ∀ m ∈ targets, c.object? m.key = some m) :
    ∀ m ∈ unseen [] (targets.map (t.standIn c)), c.object? m.key = some m := by
  intro m hm
  obtain ⟨target, htarget, rfl⟩ := List.mem_map.1 (mem_of_mem_unseen hm).1
  exact object?_transition_standIn hc (htargets target htarget)

/-- In a cluster that is alike the same keys stand in for targets that are read again. -/
theorem Cluster.Alike.unseen_again (halike : Alike c c') (ht : t ≠ .delete)
    {targets : List Manifest} (htargets : ∀ m ∈ targets, c.object? m.key = some m) :
    List.Forall₂ (fun m m' => m'.key = m.key) (unseen [] (targets.map (t.standIn c)))
      (unseen [] ((targets.filterMap fun m => c'.object? m.key).map (t.standIn c'))) := by
  refine unseen_forall₂ ?_ []
  rw [List.forall₂_map_left_iff, List.forall₂_map_right_iff]
  refine (halike.read_again htargets).imp fun m m' hsame => ?_
  unfold Transition.standIn
  rw [if_neg ht, if_neg ht]
  exact (halike.standIn hsame).key_eq

/-- What is read again is held. -/
theorem Cluster.Keyed.object?_of_mem_again (hc : c.Keyed) (targets : List Manifest) :
    ∀ m ∈ targets.filterMap fun m => c.object? m.key, c.object? m.key = some m := by
  intro m hm
  obtain ⟨target, -, hm⟩ := List.mem_filterMap.1 hm
  rw [hc.key_eq hm, hm]

/-- The objects that a second run handles are those of the first, as that has left them. -/
theorem Transition.unseen_after_run (hc : c.Keyed) (ht : t.target? = some n)
    (hkeeps : t.KeepsResources) (store : Bool) (h : History) {targets : List Manifest}
    (htargets : ∀ m ∈ targets, c.object? m.key = some m) {after : Cluster}
    (hafter : (t.run store targets h c).2 = after) :
    unseen [] ((targets.filterMap fun m => after.object? m.key).map (t.standIn after))
      = (unseen [] (targets.map (t.standIn c))).map fun m => (c.scaling n m).2 := by
  have hdelete := ne_delete_of_target? ht
  have halike : Alike c after :=
    hafter ▸ (run_countsEdited hc.sorted hdelete hkeeps targets).alike
  have hkeyed := halike.keyed hc
  obtain ⟨-, -, hobjects, -⟩ := handleAll_scaling ht hkeeps store h hc
    (nodup_unseen [] (targets.map (t.standIn c))) (object?_of_mem_unseen hc htargets)
  rw [run_eq_handleAll hc t store h htargets] at hafter
  refine eq_map_of_forall₂ (halike.unseen_again hdelete htargets) (fun m hm => ?_)
    (object?_of_mem_unseen hkeyed (hkeyed.object?_of_mem_again targets))
  rw [← hafter, hobjects m hm]

/-- **Scaling twice.**  On a keyed cluster with any refusals, run a transition that scales every
object to a count and leaves resources alone, and run it again on the same targets, read again. All
of them are there. The second run reports the failures of the first, in the same words and with the
same counts from before, and nothing else; it sends patches only for objects whose failures the
first has reported, and leaves all that is stored as it was. -/
theorem Transition.run_twice (c : Cluster) (hc : c.Keyed) (t : Transition) {n : Int32}
    (ht : t.target? = some n) (hkeeps : t.KeepsResources) (store : Bool) (targets : List Manifest)
    (h : History) (htargets : ∀ m ∈ targets, c.object? m.key = some m) :
    let first := t.run store targets h c
    let again := targets.filterMap fun m => first.2.object? m.key
    let second := t.run store again h first.2
    again.map Manifest.key = targets.map Manifest.key
    ∧ second.1.impacted = first.1.impacted.filter (·.status = .error) ∧ second.1.excluded = []
    ∧ second.2.objects = first.2.objects ∧ second.2.deletions = first.2.deletions
    ∧ ∃ new, second.2.patches = first.2.patches ++ new
      ∧ ∀ p ∈ new, ∃ o ∈ first.1.impacted, o.status = .error ∧ o.key = p.key.text := by
  intro first again second
  have halike : Alike c first.2 :=
    (run_countsEdited hc.sorted (ne_delete_of_target? ht) hkeeps targets).alike
  have hkeyed := halike.keyed hc
  have hfirst := handleAll_eq_run hc t store h htargets
  have hsecond := handleAll_eq_run hkeyed t store h (hkeyed.object?_of_mem_again targets)
  rw [unseen_after_run hc ht hkeeps store h htargets rfl] at hsecond
  obtain ⟨hreport, hstore, hpatched⟩ := handleAll_twice ht hkeeps store h hc
    (nodup_unseen [] (targets.map (t.standIn c))) (object?_of_mem_unseen hc htargets) hfirst hsecond
  obtain ⟨himpacted, hexcluded⟩ := Prod.mk.inj hreport
  refine ⟨?_, himpacted, hexcluded, hstore, run_deletions ht hkeeps store again h first.2, hpatched⟩
  have hkeys : List.Forall₂ (fun m m' => m.key = m'.key) again targets :=
    List.Forall₂.flip ((halike.read_again htargets).imp fun _ _ hsame => hsame.key_eq)
  rw [← List.forall₂_eq_eq_eq, List.forall₂_map_left_iff, List.forall₂_map_right_iff]
  exact hkeys

/-- Two workloads, of which the patches of one are refused. -/
def halfRefusing : Cluster :=
  (clusterOf [keptWorkload, sampleWorkload]).refusePatch keptWorkload.key.text "refused"

/-- One workload is put to sleep and the other is not. The second time only the other is tried, and
it still had three replicas before. -/
theorem run_twice_sample :
    halfRefusing.Keyed ∧ Transition.hibernate.target? = some 0 ∧ Transition.hibernate.KeepsResources
    ∧ (∀ m ∈ [sampleWorkload, keptWorkload], halfRefusing.object? m.key = some m)
    ∧ let first :=
        Transition.hibernate.run false [sampleWorkload, keptWorkload] ⟨[], 1⟩ halfRefusing
      let again := [sampleWorkload, keptWorkload].filterMap fun m => first.2.object? m.key
      let second := Transition.hibernate.run false again ⟨[], 1⟩ first.2
      first.1.impacted.map (·.key) = [sampleWorkload.key.text, keptWorkload.key.text]
      ∧ second.1.impacted.map (fun o => (o.key, o.countBefore)) = [(keptWorkload.key.text, 3)]
      ∧ second.2.objects = first.2.objects := by
  have hc : halfRefusing.Keyed := by decide +kernel
  have htargets : ∀ m ∈ [sampleWorkload, keptWorkload], halfRefusing.object? m.key = some m := by
    decide +kernel
  obtain ⟨-, himpacted, -, hstore, -⟩ := Transition.run_twice halfRefusing hc .hibernate rfl trivial
    false [sampleWorkload, keptWorkload] ⟨[], 1⟩ htargets
  refine ⟨hc, rfl, trivial, htargets, by decide +kernel, ?_, hstore⟩
  rw [himpacted]
  decide +kernel

end Slumber
