import Slumber.Proofs.Expression.Paths
import Slumber.Proofs.Selection.Labels
import Slumber.Proofs.Selection.Likeness

/-!
# What was put to sleep is found again

Whatever a transition sends to a cluster, unless it deletes objects or changes resources, edits
objects at their numbers of replicas and their annotations only. A selector whose expressions read
nothing there cannot tell the cluster before a run from the cluster afterwards. This needs nothing
of the targets: the patches that are made for one manifest edit any other at the same places.

* `countPaths` — the places of the edits;
* `Patch.EditsCounts` — a patch whose operations edit there; all patches that are sent do;
* `Cluster.CountsEdited` — a cluster and what such patches make of it;
* `Transition.run_preserves` — what every step of a run preserves is preserved by the run;
* `Transition.run_countsEdited` — the run lemma;
* `select_keys_after_run` — a selector finds the same keys before and after a run.
-/

namespace Slumber

open Json Cluster Manifest Selection Expression

/-! ### Patches that edit counts -/

/-- The places of the numbers of replicas and of the annotations. -/
def countPaths : List Pointer :=
  [["spec", "replicas"], ["spec", "minReplicas"], annotationsPath]

theorem replicaPath_mem_countPaths (m : Manifest) : m.replicaPath ∈ countPaths := by
  unfold replicaPath countPaths
  split <;> simp

/-- The operation edits every document to which it applies at one of the places. -/
def PatchOperation.EditsCounts (op : PatchOperation) : Prop :=
  ∀ a b, op.apply a = .ok b → ∃ p ∈ countPaths, EditedAt p a b

/-- All operations of the patch do. -/
def Patch.EditsCounts (p : Patch) : Prop :=
  ∀ op ∈ p, op.EditsCounts

theorem replaceCount_editsCounts (m : Manifest) (value : Json) :
    (PatchOperation.replace m.replicaPath value).EditsCounts := fun _ _ h =>
  ⟨m.replicaPath, replicaPath_mem_countPaths m, replaceAt_edited m.replicaPath_isNamed h⟩

theorem addAnnotation_editsCounts (value : Json) :
    (PatchOperation.add annotationPath value).EditsCounts := fun _ _ h =>
  ⟨annotationsPath, by simp [countPaths],
    (addAt_edited annotationsPath_isNamed index?_annotationKey (by decide) h).above⟩

theorem addAnnotations_editsCounts (value : Json) :
    (PatchOperation.add annotationsPath value).EditsCounts := fun a b h => by
  have hadd : a.addAt (["metadata"] ++ ["annotations"]) value = .ok b := h
  exact ⟨annotationsPath, by simp [countPaths],
    addAt_edited (by decide) (by decide) (by decide) hadd⟩

theorem removeAnnotation_editsCounts :
    (PatchOperation.remove annotationPath).EditsCounts := fun _ _ h =>
  ⟨annotationsPath, by simp [countPaths],
    (removeAt_edited annotationsPath_isNamed index?_annotationKey h).above⟩

/-- The patch that scales a manifest. -/
theorem replicaPatch?_editsCounts {m : Manifest} {target before : Int32} {p : Patch}
    (h : replicaPatch? m target = some (p, before)) : p.EditsCounts := by
  unfold replicaPatch? at h
  split at h
  · cases h
  · split at h
    · cases h
    · dsimp only at h
      split at h
      · cases h
        exact List.forall_mem_singleton.2 (replaceCount_editsCounts m _)
      · cases h
        refine List.forall_mem_cons.2 ⟨replaceCount_editsCounts m _,
          List.forall_mem_singleton.2 ?_⟩
        split
        · exact addAnnotation_editsCounts _
        · exact addAnnotations_editsCounts _

theorem cleanup_editsCounts (m : Manifest) : m.cleanup.EditsCounts := by
  unfold cleanup
  split
  · exact List.forall_mem_singleton.2 removeAnnotation_editsCounts
  · exact List.forall_mem_nil _

/-- What such a patch makes of any document. -/
theorem Patch.EditsCounts.edited {p : Patch} (hp : p.EditsCounts) {a b : Json}
    (h : p.apply a = .ok b) : a.Edited countPaths b := by
  unfold Patch.apply at h
  generalize 0 = n at h
  induction p generalizing a n with
  | nil => rw [applyFrom_nil_ok.1 h]; exact .refl
  | cons op p ih =>
      obtain ⟨hop, hp⟩ := List.forall_mem_cons.1 hp
      obtain ⟨d, hd, hrest⟩ := applyFrom_cons_ok.1 h
      exact .head (hop a d hd) (ih hp _ hrest)

/-! ### Clusters with edited counts -/

/-- The second manifest is what edits of counts make of the first. -/
def Manifest.CountsEdited (m m' : Manifest) : Prop :=
  Json.Edited countPaths m.document m'.document

namespace Manifest.CountsEdited

variable {m m' m'' : Manifest}

theorem refl (m : Manifest) : m.CountsEdited m :=
  Relation.ReflTransGen.refl

theorem trans (h : m.CountsEdited m') (h' : m'.CountsEdited m'') : m.CountsEdited m'' :=
  Relation.ReflTransGen.trans h h'

theorem sameOffScaling (h : m.CountsEdited m') : SameOffScaling m m' := by
  refine (Json.Edited.agreeOff h).mono fun q hq => ⟨q, ?_, List.prefix_rfl⟩
  simp only [countPaths, scaledPaths, List.mem_cons, List.not_mem_nil, or_false] at hq ⊢
  tauto

/-- The same to a selector whose expressions read nothing that was edited. -/
theorem looksAlike (h : m.CountsEdited m') {now : Instant} {s : Selector}
    (hs : ∀ e ∈ s.objects.fields ++ s.namespaces.fields, ReadsApart countPaths e) :
    m.LooksAlike now s m' :=
  ⟨h.sameOffScaling.key_eq, h.sameOffScaling.labels_eq, fun e he => (hs e he).matchesAt_eq h now⟩

end Manifest.CountsEdited

/-- The clusters serve and refuse to list the same and hold the same keys, and the second holds what
edits of counts make of the manifests of the first. -/
structure Cluster.CountsEdited (c c' : Cluster) : Prop where
  types_eq : c'.types = c.types
  refusedLists_eq : c'.refusedLists = c.refusedLists
  objects : List.Forall₂ (fun a b => b.1 = a.1 ∧ a.2.CountsEdited b.2) c.objects c'.objects

namespace Cluster.CountsEdited

variable {c c' c'' : Cluster} {m m' : Manifest} {k : ObjectKey}

theorem of_objects_eq (htypes : c'.types = c.types) (hlists : c'.refusedLists = c.refusedLists)
    (hobjects : c'.objects = c.objects) : CountsEdited c c' :=
  ⟨htypes, hlists, hobjects ▸ List.forall₂_same.2 fun _ _ => ⟨rfl, .refl _⟩⟩

theorem refl (c : Cluster) : CountsEdited c c :=
  of_objects_eq rfl rfl rfl

theorem trans (h : CountsEdited c c') (h' : CountsEdited c' c'') : CountsEdited c c'' :=
  ⟨h'.types_eq.trans h.types_eq, h'.refusedLists_eq.trans h.refusedLists_eq,
    FiniteMap.forall₂_trans (R := Manifest.CountsEdited) Manifest.CountsEdited.trans h.objects
      h'.objects⟩

theorem alike (h : CountsEdited c c') : Alike c c' :=
  ⟨h.types_eq, h.refusedLists_eq, h.objects.imp fun _ _ hab => ⟨hab.1, hab.2.sameOffScaling⟩⟩

/-- A patch that edits counts, whatever becomes of it. -/
theorem patch (hc : c.objects.Sorted) {p : Patch} (hp : p.EditsCounts) (k : ObjectKey) :
    CountsEdited c (c.patch k p.toJson .json).2 := by
  have hreceived : CountsEdited c (c.receiving k p.toJson .json) := of_objects_eq rfl rfl rfl
  cases hm : c.object? k with
  | none =>
      rw [patch_eq]
      have hfails : ∃ e, c.patched k p.toJson .json = .error e := by
        unfold patched
        rw [hm]
        split
        · exact ⟨_, rfl⟩
        · exact ⟨_, rfl⟩
      obtain ⟨e, he⟩ := hfails
      rw [he]
      exact hreceived
  | some m =>
      rcases patch_cases p hm with ⟨d, -, hd, heq⟩ | ⟨e, -, heq⟩
      · rw [heq]
        refine hreceived.trans ⟨rfl, rfl, ?_⟩
        exact FiniteMap.insert_forall₂ (R := Manifest.CountsEdited) hc hm .refl (hp.edited hd)
      · rw [heq]
        exact hreceived

/-- A selector whose expressions read nothing that was edited cannot tell the clusters apart. -/
theorem looksAlike (h : CountsEdited c c') {now : Instant} {s : Selector}
    (hs : ∀ e ∈ s.objects.fields ++ s.namespaces.fields, ReadsApart countPaths e) :
    LooksAlike now s c c' := by
  refine ⟨h.types_eq, h.refusedLists_eq, fun {k m} hm => ?_, fun {k m'} hm' => ?_⟩
  · obtain ⟨m', hm', hedited⟩ :=
      FiniteMap.find?_of_forall₂ (R := Manifest.CountsEdited) h.objects hm
    exact ⟨m', hm', hedited.looksAlike hs⟩
  · have hback : List.Forall₂ (fun b a => a.1 = b.1 ∧ a.2.CountsEdited b.2) c'.objects c.objects :=
      List.Forall₂.flip (h.objects.imp fun _ _ hab => ⟨hab.1.symm, hab.2⟩)
    obtain ⟨m, hm, hedited⟩ :=
      FiniteMap.find?_of_forall₂ (R := fun m' m => Manifest.CountsEdited m m') hback hm'
    exact ⟨m, hm, hedited.looksAlike hs⟩

end Cluster.CountsEdited

/-! ### Runs -/

section

variable {c : Cluster} {t : Transition} {store : Bool} {h : History}

/-- Looking for the object to handle leaves the cluster as it is. -/
theorem Transition.scalingObject_state (t : Transition) (i : AutoscalerIndex) (target : Manifest)
    (c : Cluster) : (t.scalingObject i target c).2 = c := by
  have htype : ∀ i : AutoscalerIndex, (i.typeOf c).2 = c := fun i => by
    unfold AutoscalerIndex.typeOf
    cases i.type with
    | some type => rfl
    | none => simp only [bind_apply, client_resolveType_apply]; rfl
  have hlisted : (i.autoscalersIn target.namespaceName c).2 = c := by
    unfold AutoscalerIndex.autoscalersIn
    cases i.known.find? target.namespaceName with
    | some found => rfl
    | none =>
        simp only [bind_apply]
        cases (i.typeOf c).1.1 with
        | none => simp only [htype]; rfl
        | some type => simp only [bind_apply, client_list_apply, htype]; rfl
  unfold Transition.scalingObject AutoscalerIndex.scalingObject
  split
  · rfl
  · split
    · rfl
    · simp only [bind_apply, hlisted]
      rfl

/-- What every step of a run preserves is preserved by the run. -/
theorem Transition.runFrom_preserves {P : Cluster → Prop}
    (hstep : ∀ object c, P c → P (t.applyTo store h object c).2) (targets : List Manifest)
    (i : AutoscalerIndex) (seen : List ObjectKey) (report : Report) (hc : P c) :
    P (t.runFrom store h targets i seen report c).2 := by
  induction targets generalizing i seen report c with
  | nil => exact hc
  | cons target targets ih =>
      obtain ⟨object, i', hobject⟩ : ∃ object i',
          t.scalingObject i target c = ((object, i'), c) :=
        ⟨_, _, Prod.ext rfl (t.scalingObject_state i target c)⟩
      rw [runFrom_cons hobject]
      split
      · exact ih _ _ _ hc
      · exact ih _ _ _ (hstep object c hc)

theorem Transition.run_preserves {P : Cluster → Prop}
    (hstep : ∀ object c, P c → P (t.applyTo store h object c).2) (targets : List Manifest)
    (hc : P c) : P (t.run store targets h c).2 :=
  runFrom_preserves hstep targets {} [] _ hc

theorem patchObject_state (m : Manifest) (patch : Json) (flavour : PatchKind) (o : ImpactedObject)
    (c : Cluster) : (patchObject m patch flavour o c).2
      = (c.patch (c.keyOf m.namespaceName m.objectKind m.name) patch flavour).2 := by
  simp only [patchObject, bind_apply, client_patch_apply]
  cases (c.patch (c.keyOf m.namespaceName m.objectKind m.name) patch flavour).1 <;> rfl

theorem scaleReplicas_countsEdited (hc : c.objects.Sorted) (m : Manifest) (n : Int32) :
    CountsEdited c (scaleReplicas m n c).2 := by
  unfold scaleReplicas
  cases hp : replicaPatch? m n with
  | none => exact .refl c
  | some pb =>
      show CountsEdited c (patchObject m pb.1.toJson .json _ c).2
      rw [patchObject_state]
      exact .patch hc (replicaPatch?_editsCounts hp) _

theorem restoreObject_countsEdited (hc : c.objects.Sorted) (m : Manifest) (h : History) :
    CountsEdited c (restoreObject m h c).2 := by
  have hcleanup := cleanup_editsCounts m
  have hdef : (if (m.annotation? replicasAnnotationKey).isSome then
      [PatchOperation.remove annotationPath] else []) = m.cleanup := rfl
  unfold restoreObject
  simp only [hdef]
  cases m.replicaCount? with
  | none => exact .refl c
  | some count =>
      cases restoreCount? m h with
      | none => exact .refl c
      | some n =>
          dsimp only
          split
          · split
            · exact .patch hc hcleanup _
            · exact .refl c
          · show CountsEdited c (patchObject m _ .json _ c).2
            rw [patchObject_state]
            exact .patch hc (List.forall_mem_cons.2 ⟨replaceCount_editsCounts m _, hcleanup⟩) _

/-- The step: a transition that keeps objects and resources edits counts, for any manifest. -/
theorem Transition.applyTo_countsEdited (hc : c.objects.Sorted) (ht : t ≠ .delete)
    (hkeeps : t.KeepsResources) (m : Manifest) : CountsEdited c (t.applyTo store h m c).2 := by
  cases t with
  | hibernate => exact scaleReplicas_countsEdited hc m 0
  | unhibernate =>
      have hstate : (applyTo .unhibernate store h m c).2 = (restoreObject m h c).2 := by
        simp only [applyTo, bind_apply]
        cases (restoreObject m h c).1 <;> rfl
      rw [hstate]
      exact restoreObject_countsEdited hc m h
  | delete => exact absurd rfl ht
  | scale replicas resources =>
      have hnone : resources = none := hkeeps
      subst hnone
      rw [applyTo_scale]
      cases replicas with
      | none => exact .refl c
      | some n => exact scaleReplicas_countsEdited hc m n

/-- **The run lemma.**  Whatever its targets, a run that keeps objects and resources edits counts
only. -/
theorem Transition.run_countsEdited (hc : c.objects.Sorted) (ht : t ≠ .delete)
    (hkeeps : t.KeepsResources) (targets : List Manifest) :
    CountsEdited c (t.run store targets h c).2 :=
  run_preserves (P := fun c' => CountsEdited c c')
    (fun object _ hc' => hc'.trans
      (applyTo_countsEdited (hc'.alike.sorted hc) ht hkeeps object)) targets (.refl c)

end

/-- **What was put to sleep is found again.**  A run that puts objects to sleep, wakes them up or
scales them, and leaves resources alone, does not change what a selector finds, if none of its
expressions reads a path above, at or below the numbers of replicas and the annotations: before and
after, the selection gives the same keys. -/
theorem select_keys_after_run (c : Cluster) (hc : c.Filed) (t : Transition) (ht : t ≠ .delete)
    (hkeeps : t.KeepsResources) (store : Bool) (targets : List Manifest) (h : History)
    (now : Instant) (s : Selector)
    (hs : ∀ e ∈ s.objects.fields ++ s.namespaces.fields, ReadsApart countPaths e) :
    (Selection.select now s (t.run store targets h c).2).map (fun r => FiniteMap.keys r.1)
      = (Selection.select now s c).map (fun r => FiniteMap.keys r.1) := by
  have hedited : CountsEdited c (t.run store targets h c).2 :=
    Transition.run_countsEdited hc.sorted ht hkeeps targets
  exact (hedited.looksAlike hs).select_keys_eq hc (hedited.alike.filed hc)

/-- The workloads that are not paused and have a name, by one expression of each sort. -/
def unpaused : Selector :=
  inProd "deployment" "" [] ["!spec.paused", "\x7b\x7bmetadata.name\x7d\x7d == \"web\""]

/-- A workload that was put to sleep is found again. -/
theorem select_keys_after_run_sample :
    (clusterOf [keptWorkload]).Filed ∧ Transition.hibernate ≠ .delete
    ∧ Transition.hibernate.KeepsResources
    ∧ (∀ e ∈ unpaused.objects.fields ++ unpaused.namespaces.fields, ReadsApart countPaths e)
    ∧ (((Transition.hibernate.run false [keptWorkload] ⟨[], 1⟩ (clusterOf [keptWorkload])).2.object?
        keptWorkload.key).bind Manifest.replicas = some 0)
    ∧ (Selection.select ⟨0, 0⟩ unpaused
        (Transition.hibernate.run false [keptWorkload] ⟨[], 1⟩ (clusterOf [keptWorkload])).2).map
        (fun r => FiniteMap.keys r.1) = .ok [keptWorkload.key] := by
  have hc : (clusterOf [keptWorkload]).Keyed := by decide +kernel
  have hs : ∀ e ∈ unpaused.objects.fields ++ unpaused.namespaces.fields,
      ReadsApart countPaths e := by decide +kernel
  obtain ⟨c', hfound⟩ := exists_select_eq (by decide +kernel :
    (Selection.select ⟨0, 0⟩ unpaused (clusterOf [keptWorkload])).toOption.map (·.1)
      = some [(keptWorkload.key, keptWorkload)])
  refine ⟨hc.filed, by decide, trivial, hs, by decide +kernel, ?_⟩
  rw [select_keys_after_run _ hc.filed .hibernate (by decide) trivial false [keptWorkload] ⟨[], 1⟩
    ⟨0, 0⟩ unpaused hs, hfound]
  rfl

end Slumber
