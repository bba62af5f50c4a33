import Slumber.Proofs.Transition.Truthful

/-!
# The index of autoscalers

A run keeps what it learns of autoscalers in an index, so it goes by manifests from before its own
changes. That makes no difference: what it changes has no part in which autoscaler governs an
object, and an autoscaler that was changed was handled and is passed over. The index only saves
listings, of which there is at most one for each namespace.

* `Transition.runAfresh` — the run that asks anew for every target;
* `Transition.runFrom_eq_runFromAfresh` — from a state in which the index knows what was in the
  beginning, the rest of a run does the same with the index as without;
* `Overheard` — a client together with the listings that it was asked for;
* `AutoscalerIndex.Asks` — the listings between two states of an index;
* `Transition.runFrom_overheard` — what is asked for in the rest of a run;
* `index_is_transparent` — both for whole runs.
-/

namespace Slumber

open Cluster Manifest

/-! ### Asking anew -/

section

variable {σ : Type} [ResourceClient σ]

namespace Transition

/-- Applies a transition to the rest of the objects, with an index of its own for each. -/
def runFromAfresh (t : Transition) (store : Bool) (h : History) :
    List Manifest → (seen : List ObjectKey) → Report → StateM σ Report
  | [], _, report => pure report
  | target :: rest, seen, report => do
    let (object, _) ←
      match t with
      | .delete => pure (target, {})
      | _ => AutoscalerIndex.scalingObject {} target
    if object.key ∈ seen then runFromAfresh t store h rest seen report
    else
      let (impacted, excluded) ← t.applyTo store h object
      runFromAfresh t store h rest (object.key :: seen) (report.adding impacted excluded)

/-- Applies a transition to objects, asking for autoscalers anew for each. -/
def runAfresh (t : Transition) (store : Bool) (targets : List Manifest) (h : History) :
    StateM σ Report :=
  t.runFromAfresh store h targets [] { action := t.action }

end Transition

end

variable {t : Transition} {store : Bool} {h : History} {c₀ c : Cluster} {seen : List ObjectKey}
  {i i' i'' : AutoscalerIndex}

/-- What the loop does with the first target. -/
theorem Transition.runFromAfresh_cons (ht : t ≠ .delete) {target object : Manifest}
    {rest : List Manifest} (hobject : AutoscalerIndex.scalingObject {} target c = ((object, i), c))
    (report : Report) :
    t.runFromAfresh store h (target :: rest) seen report c
      = if object.key ∈ seen then t.runFromAfresh store h rest seen report c
        else t.runFromAfresh store h rest (object.key :: seen)
          (report.adding (t.applyTo store h object c).1.1 (t.applyTo store h object c).1.2)
          (t.applyTo store h object c).2 := by
  have hloop : (t.runFromAfresh store h (target :: rest) seen report : StateM Cluster Report)
      = (AutoscalerIndex.scalingObject {} target >>= fun p =>
          if p.1.key ∈ seen then t.runFromAfresh store h rest seen report
          else t.applyTo store h p.1 >>= fun r =>
            t.runFromAfresh store h rest (p.1.key :: seen) (report.adding r.1 r.2)) := by
    cases t with
    | delete => exact absurd rfl ht
    | _ => rfl
  rw [hloop, bind_apply, hobject]
  dsimp only
  split <;> rfl

/-- **The index makes no difference.**  From a state in which the index knows what was in the
beginning, and what was not handled is as it was then, the rest of a run does the same with the
index as without. -/
theorem Transition.runFrom_eq_runFromAfresh (hc₀ : c₀.Addressable) (ht : t ≠ .delete)
    {targets : List Manifest} (htargets : ∀ m ∈ targets, c₀.object? m.key = some m)
    (hi : i.Knows c₀ seen) (htouches : TouchesOnly (· ∈ seen) c₀ c) (halike : Alike c₀ c)
    (report : Report) :
    t.runFrom store h targets i seen report c = t.runFromAfresh store h targets seen report c := by
  induction targets generalizing i seen c report with
  | nil => rfl
  | cons target rest ih =>
      obtain ⟨htarget, hrest⟩ := List.forall_mem_cons.1 htargets
      have hc := halike.addressable hc₀
      -- Both find what stood in for the target in the beginning.
      obtain ⟨object, i', hknown, hi', hsame, hheld⟩ :=
        hi.scalingObject hc.toFiled htouches halike htarget
      obtain ⟨object', i'', hasked, -, hsame', hheld'⟩ :=
        (AutoscalerIndex.Knows.empty c₀ seen).scalingObject hc.toFiled htouches halike htarget
      have hkey : object'.key = object.key := hsame'.key_eq.trans hsame.key_eq.symm
      have hindexed : t.scalingObject i target c = ((object, i'), c) := by
        rw [Transition.scalingObject, if_neg ht, hknown]
      rw [runFrom_cons hindexed, runFromAfresh_cons ht hasked, hkey]
      by_cases hseen : object.key ∈ seen
      · rw [if_pos hseen, if_pos hseen]
        exact ih hrest hi' htouches halike report
      · -- It was not handled yet, so both have it as it is.
        have heq : object' = object := by
          have hheld'' := hheld' (hkey ▸ hseen)
          rw [hkey, hheld hseen] at hheld''
          exact (Option.some.inj hheld'').symm
        have hnow : c.object? object.key = some object :=
          (htouches.object?_eq _ hseen).trans (hheld hseen)
        have hstep := applyTo_touchesOnly (hc.addresses hnow) t store h
        rw [if_neg hseen, if_neg hseen, heq]
        refine ih hrest (hi'.cons object.key) ?_
          (halike.trans (applyTo_alike hc hnow ht store h)) _
        exact (htouches.mono fun k hk => List.mem_cons_of_mem _ hk).trans
          (hstep.mono fun k hk => by rw [hk]; exact List.mem_cons_self)

/-! ### What is asked for -/

/-- A listing that was asked for. -/
structure Listing where
  namespaceName : Option String
  type : ResourceType
  labels : Option String
deriving DecidableEq, Repr

/-- A client together with the listings that it was asked for. -/
structure Overheard (σ : Type) where
  client : σ
  listings : List Listing := []

section

variable {σ α β : Type}

namespace Overheard

/-- The outcome of an activity of the client in which the given listings were asked for. -/
def after (s : Overheard σ) (x : StateM σ α) (asked : List Listing) : α × Overheard σ :=
  ((x s.client).1, ⟨(x s.client).2, s.listings ++ asked⟩)

/-- An activity of the client in which no listing is asked for. -/
def silently (x : StateM σ α) : StateM (Overheard σ) α :=
  fun s => s.after x []

instance [ResourceClient σ] : ResourceClient (Overheard σ) where
  resolveType name := silently (ResourceClient.resolveType name)
  list namespaceName type labels := fun s =>
    s.after (ResourceClient.list namespaceName type labels) [⟨namespaceName, type, labels⟩]
  get namespaceName kind name := silently (ResourceClient.get namespaceName kind name)
  patch namespaceName kind name patch flavour :=
    silently (ResourceClient.patch namespaceName kind name patch flavour)
  delete namespaceName kind name force :=
    silently (ResourceClient.delete namespaceName kind name force)

theorem silently_pure (a : α) : silently (pure a : StateM σ α) = pure a := by
  funext s
  simp [silently, after, pure_apply]

theorem silently_bind (x : StateM σ α) (f : α → StateM σ β) :
    silently (x >>= f) = silently x >>= fun a => silently (f a) := by
  funext s
  simp [silently, after, bind_apply]

theorem silently_map (f : α → β) (x : StateM σ α) : silently (f <$> x) = f <$> silently x := rfl

end Overheard

open Overheard

variable [ResourceClient σ]

theorem patchObject_overheard (m : Manifest) (patch : Json) (flavour : PatchKind)
    (o : ImpactedObject) :
    (patchObject m patch flavour o : StateM (Overheard σ) ImpactedObject)
      = silently (patchObject m patch flavour o) := by
  unfold patchObject
  rw [silently_bind]
  refine bind_congr fun reply => ?_
  cases reply <;> rw [silently_pure]

theorem scaleReplicas_overheard (m : Manifest) (n : Int32) :
    (scaleReplicas m n : StateM (Overheard σ) (Option ImpactedObject))
      = silently (scaleReplicas m n) := by
  unfold scaleReplicas
  cases replicaPatch? m n with
  | none => rw [silently_pure]
  | some p => simp only [patchObject_overheard, silently_map]

theorem scaleResources_overheard (m : Manifest)
    (targets : FiniteMap String ContainerResources) :
    (scaleResources m targets : StateM (Overheard σ) (Option ImpactedObject))
      = silently (scaleResources m targets) := by
  unfold scaleResources
  cases resourcesPatch? m targets with
  | none => rw [silently_pure]
  | some p => simp only [patchObject_overheard, silently_map]

theorem restoreObject_overheard (m : Manifest) (h : History) :
    (restoreObject m h : StateM (Overheard σ) RestoreOutcome) = silently (restoreObject m h) := by
  unfold restoreObject
  cases m.replicaCount? with
  | none => rw [silently_pure]
  | some count =>
      dsimp only
      generalize (if (m.annotation? replicasAnnotationKey).isSome then
        [PatchOperation.remove annotationPath] else []) = cleanup
      cases restoreCount? m h with
      | none => rw [silently_pure]
      | some n =>
          simp only [patchObject_overheard]
          split
          · split
            · rw [silently_bind]
              exact bind_congr fun _ => by rw [silently_pure]
            · rw [silently_pure]
          · rw [silently_bind]
            exact bind_congr fun _ => by rw [silently_pure]

theorem deleteObject_overheard (m : Manifest) (store : Bool) :
    (deleteObject m store : StateM (Overheard σ) ImpactedObject)
      = silently (deleteObject m store) := by
  unfold deleteObject
  rw [silently_bind]
  refine bind_congr fun reply => ?_
  cases reply <;> rw [silently_pure]

/-- Whatever is done to an object, no listing is asked for. -/
theorem Transition.applyTo_overheard (t : Transition) (store : Bool) (h : History) (m : Manifest) :
    (t.applyTo store h m : StateM (Overheard σ) (List ImpactedObject × List ExcludedObject))
      = silently (t.applyTo store h m) := by
  cases t with
  | hibernate =>
      simp only [applyTo, scaleReplicas_overheard, silently_bind, silently_pure]
  | unhibernate =>
      simp only [applyTo, restoreObject_overheard, silently_bind]
      refine bind_congr fun outcome => ?_
      cases outcome <;> rw [silently_pure]
  | delete => simp only [applyTo, deleteObject_overheard, silently_bind, silently_pure]
  | scale replicas resources =>
      cases replicas <;> cases resources <;>
        simp only [applyTo, scaleReplicas_overheard, scaleResources_overheard, silently_bind,
          silently_pure]
      · split <;> simp only [silently_bind, silently_pure]
      · refine bind_congr fun scaled => ?_
        split <;> simp only [silently_bind, silently_pure]

/-! ### The listings of a run -/

namespace AutoscalerIndex

/-- From one state of an index to another these listings were asked for: each in a namespace that
was not known and is known then, and no two in the same. -/
structure Asks (i i' : AutoscalerIndex) (asked : List Listing) : Prop where
  fresh : ∀ l ∈ asked, ∃ ns, l.namespaceName = some ns ∧ i.known.contains ns = false
    ∧ i'.known.contains ns = true
  keeps : ∀ ns, i.known.contains ns = true → i'.known.contains ns = true
  nodup : (asked.map (·.namespaceName)).Nodup

variable {i i' i'' : AutoscalerIndex} {asked asked' : List Listing}

theorem Asks.refl (i : AutoscalerIndex) : Asks i i [] :=
  ⟨fun _ hl => (nomatch hl), fun _ => id, List.nodup_nil⟩

theorem Asks.trans (h : Asks i i' asked) (h' : Asks i' i'' asked') :
    Asks i i'' (asked ++ asked') := by
  refine ⟨fun l hl => ?_, fun ns hns => h'.keeps ns (h.keeps ns hns), ?_⟩
  · rcases List.mem_append.1 hl with hl | hl
    · obtain ⟨ns, hns, hnew, hknown⟩ := h.fresh l hl
      exact ⟨ns, hns, hnew, h'.keeps ns hknown⟩
    · obtain ⟨ns, hns, hnew, hknown⟩ := h'.fresh l hl
      refine ⟨ns, hns, Bool.eq_false_iff.2 fun hold => ?_, hknown⟩
      rw [h.keeps ns hold] at hnew
      cases hnew
  · rw [List.map_append, List.nodup_append]
    refine ⟨h.nodup, h'.nodup, fun a ha b hb hab => ?_⟩
    obtain ⟨l, hl, rfl⟩ := List.mem_map.1 ha
    obtain ⟨l', hl', rfl⟩ := List.mem_map.1 hb
    -- What was asked for first is known then, and is not asked for again.
    obtain ⟨ns, hns, -, hknown⟩ := h.fresh l hl
    obtain ⟨ns', hns', hnew, -⟩ := h'.fresh l' hl'
    rw [hns, hns', Option.some.injEq] at hab
    rw [← hab, hknown] at hnew
    cases hnew

theorem typeOf_overheard (i : AutoscalerIndex) :
    (i.typeOf : StateM (Overheard σ) _) = silently i.typeOf := by
  unfold typeOf
  cases i.type with
  | some type => rw [silently_pure]
  | none =>
      simp only [silently_bind, silently_pure]
      rfl

/-- Asking for the type leaves alone what is known of namespaces. -/
theorem typeOf_known (i : AutoscalerIndex) (s : σ) : (i.typeOf s).1.2.known = i.known := by
  unfold typeOf
  cases i.type <;> rfl

/-- The step of the index: a namespace that is not known is asked for at most once, and is known
then. -/
theorem Asks.insert {ns : String} (hns : i.known.find? ns = none)
    {type : Option (Option ResourceType)} {found : List Manifest}
    (hasked : (asked.map (·.namespaceName)).Sublist [some ns]) :
    Asks i ⟨type, i.known.insert ns found⟩ asked := by
  have hnew : i.known.contains ns = false := by rw [FiniteMap.contains, hns]; rfl
  refine ⟨fun l hl => ⟨ns, ?_, hnew, ?_⟩, fun ns' hns' => ?_, ?_⟩
  · exact List.mem_singleton.1 (hasked.subset (List.mem_map_of_mem hl))
  · simp [FiniteMap.contains_insert]
  · simp [FiniteMap.contains_insert, hns']
  · exact hasked.nodup (List.nodup_singleton _)

theorem autoscalersIn_overheard (i : AutoscalerIndex) (ns : String) (s : Overheard σ) :
    ∃ asked, i.autoscalersIn ns s = s.after (i.autoscalersIn ns) asked
      ∧ Asks i (i.autoscalersIn ns s.client).1.2 asked := by
  unfold autoscalersIn
  cases hknown : i.known.find? ns with
  | some found => exact ⟨[], congrFun (silently_pure (found, i)).symm s, .refl i⟩
  | none =>
      have hkeeps := i.typeOf_known s.client
      obtain ⟨⟨⟨type, j⟩, client⟩, htype⟩ : ∃ p, i.typeOf s.client = p := ⟨_, rfl⟩
      rw [htype] at hkeeps
      dsimp only at hkeeps
      simp only [after, bind_apply, typeOf_overheard, silently, htype, List.append_nil]
      cases type with
      | none =>
          refine ⟨[], by simp [pure_apply, bind_apply], ?_⟩
          exact hkeeps ▸ .insert hknown (List.nil_sublist _)
      | some type =>
          refine ⟨[⟨some ns, type, none⟩], rfl, ?_⟩
          exact hkeeps ▸ .insert hknown (List.Sublist.refl _)

theorem scalingObject_overheard (i : AutoscalerIndex) (target : Manifest) (s : Overheard σ) :
    ∃ asked, i.scalingObject target s = s.after (i.scalingObject target) asked
      ∧ Asks i (i.scalingObject target s.client).1.2 asked := by
  unfold scalingObject
  split
  · exact ⟨[], congrFun (silently_pure (target, i)).symm s, .refl i⟩
  · obtain ⟨asked, hrun, hasks⟩ := i.autoscalersIn_overheard target.namespaceName s
    refine ⟨asked, ?_, hasks⟩
    simp only [bind_apply, hrun]
    rfl

end AutoscalerIndex

/-- The loop with its first target. -/
theorem Transition.runFrom_loop (ht : t ≠ .delete) (target : Manifest) (rest : List Manifest)
    (i : AutoscalerIndex) (seen : List ObjectKey) (report : Report) :
    (t.runFrom store h (target :: rest) i seen report : StateM σ Report)
      = i.scalingObject target >>= fun p =>
          if p.1.key ∈ seen then t.runFrom store h rest p.2 seen report
          else t.applyTo store h p.1 >>= fun r =>
            t.runFrom store h rest p.2 (p.1.key :: seen) (report.adding r.1 r.2) := by
  cases t with
  | delete => exact absurd rfl ht
  | _ => rfl

/-- **The run lemma.**  The rest of a run does with the overheard client what it does with the
client, and asks for listings only in namespaces that its index does not know, once in each. -/
theorem Transition.runFrom_overheard (ht : t ≠ .delete) (store : Bool) (h : History)
    (targets : List Manifest) (i : AutoscalerIndex) (seen : List ObjectKey) (report : Report)
    (s : Overheard σ) :
    ∃ asked, t.runFrom store h targets i seen report s
        = s.after (t.runFrom store h targets i seen report) asked
      ∧ ∃ i', i.Asks i' asked := by
  induction targets generalizing i seen report s with
  | nil => exact ⟨[], congrFun (silently_pure report).symm s, i, .refl i⟩
  | cons target rest ih =>
      obtain ⟨asked, hobject, hasks⟩ := i.scalingObject_overheard target s
      obtain ⟨⟨⟨object, j⟩, client⟩, hclient⟩ : ∃ p, i.scalingObject target s.client = p :=
        ⟨_, rfl⟩
      rw [hclient] at hasks
      simp only [after, runFrom_loop ht, bind_apply, hobject, hclient]
      by_cases hseen : object.key ∈ seen
      · simp only [if_pos hseen]
        obtain ⟨asked', hrun, i', hasks'⟩ := ih j seen report ⟨client, s.listings ++ asked⟩
        refine ⟨asked ++ asked', ?_, i', hasks.trans hasks'⟩
        rw [hrun, after, List.append_assoc]
      · simp only [if_neg hseen, bind_apply, applyTo_overheard, silently, after, List.append_nil]
        obtain ⟨asked', hrun, i', hasks'⟩ := ih j (object.key :: seen)
          (report.adding (t.applyTo store h object client).1.1
            (t.applyTo store h object client).1.2)
          ⟨(t.applyTo store h object client).2, s.listings ++ asked⟩
        refine ⟨asked ++ asked', ?_, i', hasks.trans hasks'⟩
        rw [hrun, after, List.append_assoc]

end

/-! ### Whole runs -/

/-- **The index cannot be told from asking anew.**  In a cluster whose objects are addressed by
their own keys, whatever it refuses, a run over held objects that deletes nothing comes out as one
that asks for autoscalers anew for each of them: the reports are the same, and so are the clusters
afterwards, with the patches that they received and the objects that they hold. The run asks for at
most one listing in each namespace, and overhearing it changes nothing. -/
theorem index_is_transparent (c : Cluster) (hc : c.Addressable) (t : Transition) (ht : t ≠ .delete)
    (store : Bool) (targets : List Manifest) (htargets : ∀ m ∈ targets, c.object? m.key = some m)
    (h : History) :
    t.run store targets h c = t.runAfresh store targets h c
    ∧ ∃ asked, t.run store targets h (⟨c, []⟩ : Overheard Cluster)
        = ((t.run store targets h c).1, ⟨(t.run store targets h c).2, asked⟩)
      ∧ (asked.map (·.namespaceName)).Nodup := by
  refine ⟨?_, ?_⟩
  · exact Transition.runFrom_eq_runFromAfresh hc ht htargets (.empty c []) (.refl _ c) (.refl c) _
  · obtain ⟨asked, hrun, i', hasks⟩ := Transition.runFrom_overheard ht store h targets {} []
      { action := t.action } (⟨c, []⟩ : Overheard Cluster)
    exact ⟨asked, hrun, hasks.nodup⟩

/-- A workload that is reached twice and its autoscaler are handled once, after one listing; asking
anew takes two. -/
theorem index_is_transparent_sample :
    sampleCluster.Addressable ∧ Transition.hibernate ≠ .delete
    ∧ (∀ m ∈ [sampleWorkload, sampleWorkload, sampleAutoscaler],
        sampleCluster.object? m.key = some m)
    ∧ Transition.hibernate.run false [sampleWorkload, sampleWorkload, sampleAutoscaler] ⟨[], 1⟩
        sampleCluster
      = Transition.hibernate.runAfresh false [sampleWorkload, sampleWorkload, sampleAutoscaler]
        ⟨[], 1⟩ sampleCluster
    ∧ (Transition.hibernate.run false [sampleWorkload, sampleWorkload, sampleAutoscaler] ⟨[], 1⟩
        (⟨sampleCluster, []⟩ : Overheard Cluster)).2.listings.map (·.namespaceName) = [some "shop"]
    ∧ (Transition.hibernate.runAfresh false [sampleWorkload, sampleWorkload, sampleAutoscaler]
        ⟨[], 1⟩ (⟨sampleCluster, []⟩ : Overheard Cluster)).2.listings.map (·.namespaceName)
      = [some "shop", some "shop"] := by
  have htargets : ∀ m ∈ [sampleWorkload, sampleWorkload, sampleAutoscaler],
      sampleCluster.object? m.key = some m := by decide
  exact ⟨sampleCluster_keyed.addressable, by decide, htargets,
    (index_is_transparent sampleCluster sampleCluster_keyed.addressable .hibernate (by decide) false
      _ htargets ⟨[], 1⟩).1, by decide +kernel, by decide +kernel⟩

end Slumber
