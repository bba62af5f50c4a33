import Slumber.Proofs.Cluster.Activities
import Slumber.Proofs.Cluster.Alike
import Slumber.Proofs.Transition.Containers
import Slumber.Transition.Engine

/-!
# What a transition makes of one object

`Effect` lists all that a transition can do to one object of a cluster: leave it as it is,
scale or restore it, only take its annotation away, fail, or delete it. Each case says when it
arises, what the object is like afterwards, and what is reported. All properties of whole runs are
derived from this list.

* `Effect` — the cases;
* `Transition.applyTo_touchesOnly` — whatever a transition does to an object touches only that one;
* `Transition.applyTo_handled` — a transition that leaves resources alone does one of the cases.
-/

namespace Slumber

/-- The count to which a transition scales every object, if it does. -/
def Transition.target? : Transition → Option Int32
  | .hibernate => some 0
  | .scale replicas _ => replicas
  | .unhibernate | .delete => none

/-- The transition leaves the resources of containers alone. -/
def Transition.KeepsResources : Transition → Prop
  | .scale _ resources => resources = none
  | .hibernate | .unhibernate | .delete => True

namespace Manifest

/-- `m'` is `m` without the annotation. -/
structure Cleaned (m m' : Manifest) : Prop where
  document : m.document.removeAt annotationPath = .ok m'.document
  count : m'.replicaCount? = m.replicaCount?
  same : SameOffScaling m m'
  annotation : m'.annotation? replicasAnnotationKey = none

theorem cleaned_of_apply {m : Manifest} {s : String} {d : Json}
    (h : m.annotation? replicasAnnotationKey = some s)
    (hp : Patch.apply m.cleanup m.document = .ok d) : Cleaned m ⟨d⟩ := by
  have hcleanup : m.cleanup = [.remove annotationPath] := by simp [cleanup, h]
  rw [hcleanup] at hp
  have hremove := Patch.apply_singleton_ok.1 hp
  obtain ⟨hnone, hoff⟩ := removeAnnotation_ok hremove
  have hoff' := agreeOff_annotations_of_annotation hoff
  exact ⟨hremove, replicaCount?_eq_of_agreeOff m ⟨d⟩ hoff',
    sameOffScaling_of_agreeOff_annotations hoff', hnone⟩

theorem exists_apply_cleanup (m : Manifest) : ∃ d, Patch.apply m.cleanup m.document = .ok d := by
  unfold cleanup
  cases hann : m.annotation? replicasAnnotationKey with
  | none => exact ⟨m.document, rfl⟩
  | some s =>
      obtain ⟨d, hd⟩ := exists_removeAnnotation hann
      exact ⟨d, Patch.apply_singleton_ok.2 hd⟩

end Manifest

/-- What a transition makes of one object: its manifest afterwards, if it is still there, the
impacted and the excluded objects that are reported. `accepts` says that the cluster takes patches
of the object. -/
inductive Effect (t : Transition) (store : Bool) (h : History) (accepts : Prop) (m : Manifest) :
    Option Manifest → List ImpactedObject → List ExcludedObject → Prop
  /-- No scaling is needed. -/
  | unscaled (ht : t = .hibernate ∨ ∃ n r, t = .scale n r)
      (hn : ∀ n, t.target? = some n → replicaPatch? m n = none) :
      Effect t store h accepts m (some m) [] []
  | scaled {n before : Int32} {p : Patch} {m' : Manifest} (ht : t.target? = some n)
      (hp : replicaPatch? m n = some (p, before)) (hm' : m.Scaled m' n before) :
      Effect t store h accepts m (some m') [{ key := m.key.text, countBefore := before }] []
  | scaleFailed {n before : Int32} {p : Patch} (ht : t.target? = some n)
      (hp : replicaPatch? m n = some (p, before)) (reason : String) :
      Effect t store h accepts m (some m)
        [{ key := m.key.text, countBefore := before, message := reason, status := .error }] []
  /-- There is no count to restore. -/
  | uncounted (ht : t = .unhibernate) (hcount : m.replicaCount? = none) :
      Effect t store h accepts m (some m) [] []
  /-- The count from before is not known. -/
  | unknown {count : Int} (ht : t = .unhibernate) (hcount : m.replicaCount? = some count)
      (hn : restoreCount? m h = none) :
      Effect t store h accepts m (some m) [] [⟨m.key.text, unknownCountBefore⟩]
  | awake {n : Int32} (ht : t = .unhibernate) (hn : restoreCount? m h = some n)
      (hcount : m.replicaCount? = some n.toInt)
      (hann : m.annotation? replicasAnnotationKey = none) :
      Effect t store h accepts m (some m) [] []
  /-- The count is right, and only the annotation goes. -/
  | cleaned {n : Int32} {s : String} {m' : Manifest} (ht : t = .unhibernate)
      (hn : restoreCount? m h = some n) (hcount : m.replicaCount? = some n.toInt)
      (hann : m.annotation? replicasAnnotationKey = some s) (hm' : m.Cleaned m') :
      Effect t store h accepts m (some m') [] []
  | cleanupFailed {n : Int32} (ht : t = .unhibernate) (hn : restoreCount? m h = some n)
      (hcount : m.replicaCount? = some n.toInt) (hrefused : ¬ accepts) :
      Effect t store h accepts m (some m) [] []
  | restored {n : Int32} {count : Int} {m' : Manifest} (ht : t = .unhibernate)
      (hn : restoreCount? m h = some n) (hcount : m.replicaCount? = some count)
      (hne : count ≠ n.toInt) (hm' : m.Restored m' n) :
      Effect t store h accepts m (some m') [{ key := m.key.text, countBefore := n }] []
  | restoreFailed {n : Int32} {count : Int} (ht : t = .unhibernate)
      (hn : restoreCount? m h = some n) (hcount : m.replicaCount? = some count)
      (hne : count ≠ n.toInt) (hrefused : ¬ accepts) (reason : String) :
      Effect t store h accepts m (some m)
        [{ key := m.key.text, countBefore := n, message := reason, status := .error }] []
  | deleted (ht : t = .delete) :
      Effect t store h accepts m none
        [{ key := m.key.text, deleted := if store then m.document.render else "" }] []

/-! ### Patching an object -/

open Cluster

variable {c : Cluster} {m : Manifest} {t : Transition} {store : Bool} {h : History}

/-- A failure is recorded with the object. -/
def ImpactedObject.failed (o : ImpactedObject) (e : ResourceError) : ImpactedObject :=
  { o with status := .error, message := e.message }

/-- The object is addressed by its own key. -/
def Cluster.Addresses (c : Cluster) (m : Manifest) : Prop :=
  c.keyOf m.namespaceName m.objectKind m.name = m.key

theorem Cluster.Addressable.addresses (hc : c.Addressable) (hm : c.object? m.key = some m) :
    c.Addresses m :=
  hc.keyOf_eq hm

theorem Cluster.Keyed.addresses (hc : c.Keyed) (hm : c.object? m.key = some m) : c.Addresses m :=
  hc.addressable.addresses hm

theorem Cluster.TouchesOnly.addresses {c' : Cluster} {touched : ObjectKey → Prop}
    (h : TouchesOnly touched c c') (ha : c.Addresses m) : c'.Addresses m :=
  (h.keyOf_eq _ _ _).trans ha

theorem patchObject_eq (ha : c.Addresses m) (patch : Json) (flavour : PatchKind)
    (o : ImpactedObject) :
    patchObject m patch flavour o c
      = (match (c.patch m.key patch flavour).1 with
          | .ok _ => o
          | .error e => o.failed e,
        (c.patch m.key patch flavour).2) := by
  have ha' : c.keyOf m.namespaceName m.objectKind m.name = m.key := ha
  simp only [patchObject, bind_apply, client_patch_apply, ha']
  cases (c.patch m.key patch flavour).1 <;> rfl

/-- What sending operations for a held object comes to. -/
theorem patchObject_cases (hc : c.Addressable) (hm : c.object? m.key = some m) (p : Patch)
    (o : ImpactedObject) :
    (∃ d, c.Accepts m.key ∧ p.apply m.document = .ok d
      ∧ patchObject m p.toJson .json o c
        = (o, (c.receiving m.key p.toJson .json).holding m.key ⟨d⟩))
    ∨ ∃ e, (¬ c.Accepts m.key ∨ ∀ d, p.apply m.document ≠ .ok d)
      ∧ patchObject m p.toJson .json o c = (o.failed e, c.receiving m.key p.toJson .json) := by
  rw [patchObject_eq (hc.addresses hm)]
  rcases patch_cases p hm with ⟨d, haccepts, hd, heq⟩ | ⟨e, hwhy, heq⟩
  · exact .inl ⟨d, haccepts, hd, by rw [heq]⟩
  · exact .inr ⟨e, hwhy, by rw [heq]⟩

/-! ### Touching one object only -/

theorem patchObject_touchesOnly (ha : c.Addresses m) (patch : Json) (flavour : PatchKind)
    (o : ImpactedObject) : TouchesOnly (· = m.key) c (patchObject m patch flavour o c).2 := by
  rw [patchObject_eq ha]
  exact patch_touchesOnly c m.key patch flavour

theorem scaleReplicas_touchesOnly (ha : c.Addresses m) (n : Int32) :
    TouchesOnly (· = m.key) c (scaleReplicas m n c).2 := by
  unfold scaleReplicas
  cases replicaPatch? m n with
  | none => exact .refl _ c
  | some pb => exact patchObject_touchesOnly ha _ _ _

theorem scaleResources_touchesOnly (ha : c.Addresses m)
    (targets : FiniteMap String ContainerResources) :
    TouchesOnly (· = m.key) c (scaleResources m targets c).2 := by
  unfold scaleResources
  cases resourcesPatch? m targets with
  | none => exact .refl _ c
  | some p => exact patchObject_touchesOnly ha _ _ _

theorem restoreObject_touchesOnly (ha : c.Addresses m) (h : History) :
    TouchesOnly (· = m.key) c (restoreObject m h c).2 := by
  have ha' : c.keyOf m.namespaceName m.objectKind m.name = m.key := ha
  unfold restoreObject
  cases m.replicaCount? with
  | none => exact .refl _ c
  | some count =>
      cases restoreCount? m h with
      | none => exact .refl _ c
      | some n =>
          dsimp only
          split
          · split
            · show TouchesOnly _ c (c.patch (c.keyOf m.namespaceName m.objectKind m.name) _ _).2
              rw [ha']
              exact patch_touchesOnly c m.key _ _
            · exact .refl _ c
          · exact patchObject_touchesOnly ha _ _ _

theorem deleteObject_touchesOnly (ha : c.Addresses m) (store : Bool) :
    TouchesOnly (· = m.key) c (deleteObject m store c).2 := by
  have ha' : c.keyOf m.namespaceName m.objectKind m.name = m.key := ha
  have hstate : (deleteObject m store c).2 = (c.delete m.key).2 := by
    simp only [deleteObject, bind_apply, client_delete_apply, ha']
    cases (c.delete m.key).1 <;> rfl
  rw [hstate]
  exact delete_touchesOnly c m.key

/-- Scales an object to a count, if there is one. -/
def scaleTo (m : Manifest) : Option Int32 → StateM Cluster (Option ImpactedObject)
  | some n => scaleReplicas m n
  | none => pure none

/-- Gives the containers of a pod their resources, if there are any. -/
def resizeTo (m : Manifest) :
    Option (FiniteMap String ContainerResources) → StateM Cluster (Option ImpactedObject)
  | some targets => if m.kind = podKind then scaleResources m targets else pure none
  | none => pure none

theorem Transition.applyTo_scale (replicas : Option Int32)
    (resources : Option (FiniteMap String ContainerResources)) (store : Bool) (h : History)
    (m : Manifest) (c : Cluster) :
    (Transition.scale replicas resources).applyTo store h m c
      = (((scaleTo m replicas c).1.toList
            ++ (resizeTo m resources (scaleTo m replicas c).2).1.toList, []),
          (resizeTo m resources (scaleTo m replicas c).2).2) := by
  cases replicas <;> cases resources <;> simp only [applyTo, scaleTo, resizeTo]
  · rfl
  · split <;> rfl
  · rfl
  · split <;> rfl

theorem scaleTo_touchesOnly (ha : c.Addresses m) (replicas : Option Int32) :
    TouchesOnly (· = m.key) c (scaleTo m replicas c).2 := by
  cases replicas with
  | none => exact .refl _ c
  | some n => exact scaleReplicas_touchesOnly ha n

theorem resizeTo_touchesOnly (ha : c.Addresses m)
    (resources : Option (FiniteMap String ContainerResources)) :
    TouchesOnly (· = m.key) c (resizeTo m resources c).2 := by
  cases resources with
  | none => exact .refl _ c
  | some targets =>
      unfold resizeTo
      split
      · exact scaleResources_touchesOnly ha targets
      · exact .refl _ c

/-- **Frame.**  Whatever a transition does to an object touches at most that object. -/
theorem Transition.applyTo_touchesOnly (ha : c.Addresses m) (t : Transition) (store : Bool)
    (h : History) : TouchesOnly (· = m.key) c (t.applyTo store h m c).2 := by
  cases t with
  | hibernate => exact scaleReplicas_touchesOnly ha 0
  | unhibernate =>
      have hstate : (applyTo .unhibernate store h m c).2 = (restoreObject m h c).2 := by
        simp only [applyTo, bind_apply]
        cases (restoreObject m h c).1 <;> rfl
      rw [hstate]
      exact restoreObject_touchesOnly ha h
  | delete => exact deleteObject_touchesOnly ha store
  | scale replicas resources =>
      rw [applyTo_scale]
      have hscaled := scaleTo_touchesOnly ha replicas
      exact hscaled.trans (resizeTo_touchesOnly (hscaled.addresses ha) resources)

/-! ### The cases -/

/-- What holds after a transition was applied to a held object: nothing else was touched, and one of
the cases arose. -/
structure Handled (t : Transition) (store : Bool) (h : History) (c : Cluster) (m : Manifest)
    (r : (List ImpactedObject × List ExcludedObject) × Cluster) : Prop where
  touches : TouchesOnly (· = m.key) c r.2
  alike : t ≠ .delete → Alike c r.2
  effect : Effect t store h (c.Accepts m.key) m (r.2.object? m.key) r.1.1 r.1.2

theorem handled_unchanged {imp : List ImpactedObject} {exc : List ExcludedObject}
    (hm : c.object? m.key = some m)
    (he : Effect t store h (c.Accepts m.key) m (some m) imp exc) :
    Handled t store h c m ((imp, exc), c) :=
  ⟨.refl _ c, fun _ => .refl c, hm ▸ he⟩

theorem handled_received {imp : List ImpactedObject} {exc : List ExcludedObject} {patch : Json}
    {flavour : PatchKind} (hm : c.object? m.key = some m)
    (he : Effect t store h (c.Accepts m.key) m (some m) imp exc) :
    Handled t store h c m ((imp, exc), c.receiving m.key patch flavour) :=
  ⟨receiving_touchesOnly _ _ _ _, fun _ => .receiving _ _ _ _,
    by rw [object?_receiving, hm]; exact he⟩

theorem handled_changed {imp : List ImpactedObject} {exc : List ExcludedObject} {patch : Json}
    {flavour : PatchKind} {m' : Manifest} (hc : c.objects.Sorted)
    (hm : c.object? m.key = some m) (hsame : m.SameOffScaling m')
    (he : Effect t store h (c.Accepts m.key) m (some m') imp exc) :
    Handled t store h c m ((imp, exc), (c.receiving m.key patch flavour).holding m.key m') := by
  have halike := (Alike.receiving c m.key patch flavour).trans
    (.holding hc (by rw [object?_receiving, hm]) hsame)
  exact ⟨(receiving_touchesOnly _ _ _ _).trans (holding_touchesOnly _ _ _),
    fun _ => halike, by rw [object?_holding_self]; exact he⟩

/-- Scaling an object to the target of a transition. -/
theorem scaleReplicas_handled (hc : c.Addressable) (hm : c.object? m.key = some m) {n : Int32}
    (ht : t.target? = some n) (store : Bool) (h : History) :
    Handled t store h c m (((scaleReplicas m n c).1.toList, []), (scaleReplicas m n c).2) := by
  unfold scaleReplicas
  cases hp : replicaPatch? m n with
  | none =>
      have hkind : t = .hibernate ∨ ∃ n r, t = .scale n r := by
        cases t with
        | hibernate => exact .inl rfl
        | scale replicas resources => exact .inr ⟨_, _, rfl⟩
        | unhibernate => cases ht
        | delete => cases ht
      refine handled_unchanged hm (.unscaled hkind fun k hk => ?_)
      rw [ht, Option.some.injEq] at hk
      rw [← hk, hp]
  | some pb =>
      obtain ⟨p, before⟩ := pb
      simp only [map_apply]
      rcases patchObject_cases hc hm p { key := m.key.text, countBefore := before } with
        ⟨d, -, hd, heq⟩ | ⟨e, -, heq⟩
      · have hscaled := Manifest.scaled_of_apply hp hd
        rw [heq]
        exact handled_changed hc.sorted hm hscaled.same (.scaled ht hp hscaled)
      · rw [heq]
        exact handled_received hm (.scaleFailed ht hp e.message)

/-- The patch that only takes the annotation away. -/
theorem cleanup_handled {s : String} (store : Bool) (hc : c.objects.Sorted)
    (hm : c.object? m.key = some m)
    (hann : m.annotation? replicasAnnotationKey = some s) {n : Int32}
    (hn : restoreCount? m h = some n) (hcount : m.replicaCount? = some n.toInt) :
    Handled .unhibernate store h c m (([], []), (c.patch m.key m.cleanup.toJson .json).2) := by
  rcases patch_cases m.cleanup hm with ⟨d, -, hd, heq⟩ | ⟨e, hwhy, heq⟩
  · have hcleaned := Manifest.cleaned_of_apply hann hd
    rw [heq]
    exact handled_changed hc hm hcleaned.same (.cleaned rfl hn hcount hann hcleaned)
  · rw [heq]
    have hrefused : ¬ c.Accepts m.key := by
      rcases hwhy with hrefused | hfails
      · exact hrefused
      · obtain ⟨d, hd⟩ := m.exists_apply_cleanup
        exact absurd hd (hfails d)
    exact handled_received hm (.cleanupFailed rfl hn hcount hrefused)

theorem restore_handled (hc : c.Addressable) (hm : c.object? m.key = some m) (store : Bool)
    (h : History) :
    Handled .unhibernate store h c m (Transition.applyTo .unhibernate store h m c) := by
  simp only [Transition.applyTo, bind_apply]
  unfold restoreObject
  cases hcount : m.replicaCount? with
  | none => exact handled_unchanged hm (.uncounted rfl hcount)
  | some count =>
      cases hn : restoreCount? m h with
      | none => exact handled_unchanged hm (.unknown rfl hcount hn)
      | some n =>
          dsimp only
          split
          · rename_i heq
            subst heq
            cases hann : m.annotation? replicasAnnotationKey with
            | none => exact handled_unchanged hm (.awake rfl hn hcount hann)
            | some s =>
                have hcleanup : m.cleanup = [.remove annotationPath] := by
                  simp [Manifest.cleanup, hann]
                have ha : c.keyOf m.namespaceName m.objectKind m.name = m.key := hc.addresses hm
                have hdone := cleanup_handled store hc.sorted hm hann hn hcount
                rw [hcleanup] at hdone
                simpa [bind_apply, client_patch_apply, ha, pure_apply] using hdone
          · rename_i hne
            show Handled _ _ _ _ _
              (([(patchObject m (Patch.toJson (.replace m.replicaPath (.ofWord32 n) :: m.cleanup))
                    .json _ c).1], []),
                (patchObject m (Patch.toJson (.replace m.replicaPath (.ofWord32 n) :: m.cleanup))
                    .json _ c).2)
            rcases patchObject_cases hc hm (.replace m.replicaPath (.ofWord32 n) :: m.cleanup)
              { key := m.key.text, countBefore := n } with ⟨d, -, hd, heq⟩ | ⟨e, hwhy, heq⟩
            · have hrestored := Manifest.restored_of_apply hd
              rw [heq]
              exact handled_changed hc.sorted hm hrestored.same
                (.restored rfl hn hcount hne hrestored)
            · have hrefused : ¬ c.Accepts m.key := by
                rcases hwhy with hrefused | hfails
                · exact hrefused
                · obtain ⟨d, hd⟩ := Manifest.exists_apply_restorePatch n hcount
                  exact absurd hd (hfails d)
              rw [heq]
              exact handled_received hm (.restoreFailed rfl hn hcount hne hrefused e.message)

/-- Deleting a held object cannot fail. -/
theorem Transition.applyTo_delete (hc : c.Addressable) (hm : c.object? m.key = some m)
    (store : Bool) (h : History) :
    Transition.applyTo .delete store h m c
      = (([{ key := m.key.text, deleted := if store then m.document.render else "" }], []),
          c.without m.key) := by
  have ha : c.keyOf m.namespaceName m.objectKind m.name = m.key := hc.addresses hm
  simp only [Transition.applyTo, deleteObject, bind_apply, client_delete_apply, ha, delete_eq hm]
  cases store <;> rfl

theorem delete_handled (hc : c.Addressable) (hm : c.object? m.key = some m) (store : Bool)
    (h : History) : Handled .delete store h c m (Transition.applyTo .delete store h m c) := by
  rw [Transition.applyTo_delete hc hm]
  exact ⟨without_touchesOnly c _, fun hne => absurd rfl hne,
    by rw [object?_without_self]; exact .deleted rfl⟩

/-- **Exhaustiveness.**  Applying a transition that leaves resources alone to a held object does one
of the listed cases, and nothing to any other object. -/
theorem Transition.applyTo_handled (hc : c.Addressable) (hm : c.object? m.key = some m)
    {t : Transition} (ht : t.KeepsResources) (store : Bool) (h : History) :
    Handled t store h c m (t.applyTo store h m c) := by
  cases t with
  | hibernate => exact scaleReplicas_handled hc hm rfl store h
  | unhibernate => exact restore_handled hc hm store h
  | delete => exact delete_handled hc hm store h
  | scale replicas resources =>
      have hnone : resources = none := ht
      subst hnone
      rw [applyTo_scale]
      cases replicas with
      | none => exact handled_unchanged hm (.unscaled (.inr ⟨_, _, rfl⟩) fun k hk => by cases hk)
      | some n =>
          have hscaled := scaleReplicas_handled (t := .scale (some n) none) hc hm rfl store h
          simpa [scaleTo, resizeTo, pure_apply] using hscaled

/-- Giving containers their resources keeps all but the containers. -/
theorem scaleResources_alike {m' : Manifest} (hc : c.objects.Sorted) (ha : c.Addresses m)
    (hm' : c.object? m.key = some m') (hcontainers : m'.containers = m.containers)
    (targets : FiniteMap String ContainerResources) :
    Alike c (scaleResources m targets c).2 := by
  unfold scaleResources
  cases hp : resourcesPatch? m targets with
  | none => exact .refl c
  | some patch =>
      show Alike c (patchObject m patch .strategic { key := m.key.text } c).2
      rw [patchObject_eq ha, patch_eq]
      cases hpatched : c.patched m.key patch .strategic with
      | error e => exact .receiving _ _ _ _
      | ok n =>
          have hmerged : n = ⟨m'.document.strategicMerge patch⟩ := by
            simp only [patched, hm'] at hpatched
            split at hpatched
            · cases hpatched
            · cases hpatched
              rfl
          have hframe := Manifest.sameOffScaling_of_resourcesPatch hp hcontainers
          rw [← hmerged] at hframe
          exact (Alike.receiving _ _ _ _).trans
            (.holding hc (by rw [object?_receiving, hm']) hframe)

theorem resizeTo_alike {m' : Manifest} (hc : c.objects.Sorted) (ha : c.Addresses m)
    (hm' : c.object? m.key = some m') (hcontainers : m'.containers = m.containers)
    (resources : Option (FiniteMap String ContainerResources)) :
    Alike c (resizeTo m resources c).2 := by
  cases resources with
  | none => exact .refl c
  | some targets =>
      show Alike c ((if m.kind = podKind then scaleResources m targets else pure none) c).2
      split
      · exact scaleResources_alike hc ha hm' hcontainers targets
      · exact .refl c

/-- Scaling leaves the containers as they were. -/
theorem Effect.containers_of_scale {accepts : Prop} {replicas : Option Int32}
    {resources : Option (FiniteMap String ContainerResources)} {after : Option Manifest}
    {impacted : List ImpactedObject} {excluded : List ExcludedObject}
    (he : Effect (.scale replicas resources) store h accepts m after impacted excluded) :
    ∃ m', after = some m' ∧ Manifest.SameOffScaling m m' ∧ m'.containers = m.containers := by
  cases he with
  | unscaled | scaleFailed => exact ⟨m, rfl, .refl m, rfl⟩
  | scaled _ _ hm' => exact ⟨_, rfl, hm'.same, hm'.containers⟩
  | uncounted ht | unknown ht | awake ht | cleaned ht | cleanupFailed ht | restored ht
  | restoreFailed ht | deleted ht => cases ht

/-- The part of a scaling that changes the number of replicas. -/
theorem scaleTo_handled (hc : c.Addressable) (hm : c.object? m.key = some m)
    (replicas : Option Int32) (store : Bool) (h : History) :
    Handled (.scale replicas none) store h c m
      (((scaleTo m replicas c).1.toList, []), (scaleTo m replicas c).2) := by
  have hscaled := Transition.applyTo_handled (t := .scale replicas none) hc hm rfl store h
  rw [Transition.applyTo_scale] at hscaled
  simpa [resizeTo, pure_apply] using hscaled

/-- A transition other than a deletion changes numbers of replicas, annotations and containers
only. -/
theorem Transition.applyTo_alike (hc : c.Addressable) (hm : c.object? m.key = some m)
    {t : Transition} (ht : t ≠ .delete) (store : Bool) (h : History) :
    Alike c (t.applyTo store h m c).2 := by
  cases t with
  | hibernate => exact (applyTo_handled (t := .hibernate) hc hm trivial store h).alike ht
  | unhibernate => exact (applyTo_handled (t := .unhibernate) hc hm trivial store h).alike ht
  | delete => exact absurd rfl ht
  | scale replicas resources =>
      have hscaled := scaleTo_handled hc hm replicas store h
      obtain ⟨m', hm', -, hcontainers⟩ := hscaled.effect.containers_of_scale
      have halike := hscaled.alike (by simp)
      rw [applyTo_scale]
      exact halike.trans (resizeTo_alike (halike.sorted hc.sorted)
        (hscaled.touches.addresses (hc.addresses hm)) hm' hcontainers resources)

/-- Applying a transition to a held object keeps a cluster keyed. -/
theorem Transition.applyTo_keyed (hc : c.Keyed) (hm : c.object? m.key = some m) (t : Transition)
    (store : Bool) (h : History) : (t.applyTo store h m c).2.Keyed := by
  by_cases ht : t = .delete
  · subst ht
    rw [applyTo_delete hc.addressable hm]
    exact hc.without m.key
  · exact (applyTo_alike hc.addressable hm ht store h).keyed hc

end Slumber
