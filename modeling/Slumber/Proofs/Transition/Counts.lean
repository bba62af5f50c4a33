import Slumber.Proofs.Decimal.Whole
import Slumber.Proofs.Json.Edits
import Slumber.Transition.Restore

/-!
# What the patches make of a manifest

Scaling sets the number of replicas and keeps the one from before in an annotation; restoring sets
the number and takes the annotation away. Neither changes anything else that is read of a manifest.

* `Manifest.SameOffScaling` — manifests that agree off the numbers of replicas, the annotations and
  the containers;
* `Manifest.Scaled`, `Manifest.Restored` — what a manifest is like after scaling and restoring;
* `scaled_of_apply`, `restored_of_apply` — the patches of this library do that when they apply;
* `exists_apply_restorePatch` — the restoring patch always applies to the manifest it was made for.
-/

namespace Slumber

open Slumber.Decimal Slumber.Text

/-! ### Patches of several operations -/

namespace Patch

theorem applyFrom_cons_ok {n : Nat} {op : PatchOperation} {ops : Patch} {doc d : Json} :
    applyFrom n (op :: ops) doc = .ok d
      ↔ ∃ d₁, op.apply doc = .ok d₁ ∧ applyFrom (n + 1) ops d₁ = .ok d := by
  simp only [applyFrom]
  cases op.apply doc <;> simp

theorem applyFrom_nil_ok {n : Nat} {doc d : Json} : applyFrom n [] doc = .ok d ↔ doc = d := by
  simp [applyFrom]

theorem apply_singleton_ok {op : PatchOperation} {doc d : Json} :
    apply [op] doc = .ok d ↔ op.apply doc = .ok d := by
  simp only [apply, applyFrom_cons_ok, applyFrom_nil_ok, exists_eq_right]

theorem apply_pair_ok {op op' : PatchOperation} {doc d : Json} :
    apply [op, op'] doc = .ok d ↔ ∃ d₁, op.apply doc = .ok d₁ ∧ op'.apply d₁ = .ok d := by
  simp only [apply, applyFrom_cons_ok, applyFrom_nil_ok, exists_eq_right]

end Patch

namespace Manifest

open Json

/-! ### Where the counts stand -/

/-- The place of the containers of a pod. -/
def containersPath : Pointer := ["spec", "containers"]

/-- The places that transitions change: the two numbers of replicas, the annotations and the
containers. -/
def scaledPaths : List Pointer :=
  [["spec", "replicas"], ["spec", "minReplicas"], annotationsPath, containersPath]

theorem replicaPath_mem (m : Manifest) : m.replicaPath ∈ scaledPaths := by
  unfold replicaPath scaledPaths
  split <;> simp

theorem replicaPath_isNamed (m : Manifest) : m.replicaPath.IsNamed := by
  unfold replicaPath
  split <;> decide

theorem replicaPath_apart_annotations (m : Manifest) : m.replicaPath.Apart annotationsPath := by
  unfold replicaPath
  split <;> decide

theorem replicaCount?_eq (m : Manifest) :
    m.replicaCount? = (m.document.at? m.replicaPath).bind int64? := by
  unfold replicaCount? replicaPath minReplicas replicas
  split <;> rfl

theorem index?_annotationKey : Pointer.index? replicasAnnotationKey = none := by decide

theorem annotationsPath_isNamed : annotationsPath.IsNamed := by decide

/-- The annotation is the text at its place. -/
theorem annotation?_eq (m : Manifest) :
    m.annotation? replicasAnnotationKey = (m.document.at? annotationPath).bind text? := by
  have hann : m.annotations? = (m.document.at? annotationsPath).filter isObject := rfl
  unfold annotation? annotationPath
  rw [at?_append, hann]
  cases m.document.at? annotationsPath with
  | none => rfl
  | some j =>
      cases j with
      | obj fields =>
          rw [Option.bind_some, at?_obj_singleton]
          rfl
      | arr xs => simp [Option.filter_some, isObject, at?, index?_annotationKey]
      | _ => simp [Option.filter_some, isObject, at?]

theorem annotatedCount?_eq_of_annotation? {m m' : Manifest}
    (h : m.annotation? replicasAnnotationKey = m'.annotation? replicasAnnotationKey) :
    m.annotatedCount? = m'.annotatedCount? := by
  unfold annotatedCount?
  rw [h]

/-- A count that was written into the annotation is read from it. -/
theorem annotatedCount?_of_toString {m : Manifest} {n : Int32}
    (h : m.annotation? replicasAnnotationKey = some (toString n.toInt)) :
    m.annotatedCount? = some n := by
  have hread : readSigned maxSigned32 (trimChars (toString n.toInt).toList) = .ok n.toInt := by
    rw [trimChars_toString]
    apply readSigned_toString
    · have := n.le_toInt
      unfold maxSigned32
      omega
    · have := n.toInt_lt
      unfold maxSigned32
      omega
  unfold annotatedCount?
  rw [h, Option.bind_some, hread]
  simp

/-! ### Manifests that differ in what transitions change only -/

/-- The manifests agree off the numbers of replicas, the annotations and the containers. -/
def SameOffScaling (m m' : Manifest) : Prop :=
  AgreeOff scaledPaths m.document m'.document

namespace SameOffScaling

variable {m m' m'' : Manifest}

theorem refl (m : Manifest) : SameOffScaling m m :=
  AgreeOff.refl _ _

theorem symm (h : SameOffScaling m m') : SameOffScaling m' m :=
  AgreeOff.symm h

theorem trans (h : SameOffScaling m m') (h' : SameOffScaling m' m'') : SameOffScaling m m'' :=
  AgreeOff.trans h h'

theorem textAt_eq (h : SameOffScaling m m') {p : Pointer} (hp : ∀ q ∈ scaledPaths, q.Apart p) :
    m'.textAt p = m.textAt p := by
  unfold textAt
  rw [h p hp]

theorem kind_eq (h : SameOffScaling m m') : m'.kind = m.kind :=
  h.textAt_eq (by decide)

theorem namespaceName_eq (h : SameOffScaling m m') : m'.namespaceName = m.namespaceName :=
  h.textAt_eq (by decide)

theorem name_eq (h : SameOffScaling m m') : m'.name = m.name :=
  h.textAt_eq (by decide)

theorem objectKind_eq (h : SameOffScaling m m') : m'.objectKind = m.objectKind := by
  have hversion : m'.apiVersion = m.apiVersion := h.textAt_eq (by decide)
  unfold objectKind
  rw [hversion, h.kind_eq]

theorem key_eq (h : SameOffScaling m m') : m'.key = m.key := by
  unfold key
  rw [h.objectKind_eq, h.namespaceName_eq, h.name_eq]

theorem labels_eq (h : SameOffScaling m m') : m'.labels = m.labels := by
  unfold labels
  rw [h _ (by decide)]

theorem isAutoscaler_eq (h : SameOffScaling m m') : m'.isAutoscaler = m.isAutoscaler := by
  unfold isAutoscaler
  rw [h.kind_eq]

theorem replicaPath_eq (h : SameOffScaling m m') : m'.replicaPath = m.replicaPath := by
  unfold replicaPath
  rw [h.isAutoscaler_eq]

theorem scaleTarget?_eq (h : SameOffScaling m m') : m'.scaleTarget? = m.scaleTarget? := by
  unfold scaleTarget?
  rw [h _ (by decide)]

end SameOffScaling

/-! ### Scaling -/

/-- `m'` is `m` scaled to `target`: the annotation is the old one or, without one, keeps
`before`. -/
structure Scaled (m m' : Manifest) (target before : Int32) : Prop where
  count : m'.replicaCount? = some target.toInt
  same : SameOffScaling m m'
  annotation : m'.annotation? replicasAnnotationKey
    = some ((m.annotation? replicasAnnotationKey).getD (toString before.toInt))
  containers : m'.containers = m.containers

/-- `m'` is `m` restored to `count`, without the annotation. -/
structure Restored (m m' : Manifest) (count : Int32) : Prop where
  count : m'.replicaCount? = some count.toInt
  same : SameOffScaling m m'
  annotation : m'.annotation? replicasAnnotationKey = none

theorem int64?_ofWord32 (n : Int32) : (Json.ofWord32 n).int64? = some n.toInt := by
  have hlow := n.le_toInt
  have hhigh := n.toInt_lt
  simp only [ofWord32, int64?]
  rw [if_pos (by omega)]

/-- Replacing the number of replicas keeps all else. -/
theorem replaceCount_ok {m : Manifest} {n : Int32} {d : Json}
    (h : (PatchOperation.replace m.replicaPath (.ofWord32 n)).apply m.document = .ok d) :
    (⟨d⟩ : Manifest).replicaCount? = some n.toInt ∧ SameOffScaling m ⟨d⟩
      ∧ AgreeOff [m.replicaPath] m.document d := by
  obtain ⟨hat, hoff⟩ := replaceAt_ok m.replicaPath_isNamed h
  have hsame : SameOffScaling m ⟨d⟩ := hoff.mono fun q hq => by
    rw [List.mem_singleton] at hq
    exact ⟨q, hq ▸ m.replicaPath_mem, List.prefix_rfl⟩
  refine ⟨?_, hsame, hoff⟩
  rw [replicaCount?_eq, hsame.replicaPath_eq, hat, Option.bind_some, int64?_ofWord32]

/-- Off the number of replicas means: the annotations are as before. -/
theorem annotation?_eq_of_agreeOff {m : Manifest} {d : Json}
    (h : AgreeOff [m.replicaPath] m.document d) :
    (⟨d⟩ : Manifest).annotation? replicasAnnotationKey = m.annotation? replicasAnnotationKey := by
  rw [annotation?_eq, annotation?_eq]
  rw [h annotationPath]
  intro q hq
  rw [List.mem_singleton] at hq
  subst hq
  exact (m.replicaPath_apart_annotations.symm.below [replicasAnnotationKey]).symm

theorem sameOffScaling_of_agreeOff_annotations {m m' : Manifest}
    (h : AgreeOff [annotationsPath] m.document m'.document) : SameOffScaling m m' :=
  h.mono fun q hq => by
    rw [List.mem_singleton] at hq
    exact ⟨q, by rw [hq]; simp [scaledPaths], List.prefix_rfl⟩

/-- What is off the annotations keeps the number of replicas. -/
theorem replicaCount?_eq_of_agreeOff (m m' : Manifest)
    (h : AgreeOff [annotationsPath] m.document m'.document) :
    m'.replicaCount? = m.replicaCount? := by
  have hsame : SameOffScaling m m' := sameOffScaling_of_agreeOff_annotations h
  rw [replicaCount?_eq, replicaCount?_eq, hsame.replicaPath_eq, h]
  intro q hq
  rw [List.mem_singleton] at hq
  subst hq
  exact m.replicaPath_apart_annotations.symm

/-- What is off the number of replicas, or off the annotations, keeps the containers. -/
theorem containers_eq_of_agreeOff {m m' : Manifest} {p : Pointer}
    (h : AgreeOff [p] m.document m'.document) (hp : p.Apart containersPath) :
    m'.containers = m.containers := by
  show ((m'.document.at? containersPath).bind elements?).getD []
    = ((m.document.at? containersPath).bind elements?).getD []
  rw [h containersPath]
  intro q hq
  rw [List.mem_singleton] at hq
  exact hq ▸ hp

theorem replicaPath_apart_containers (m : Manifest) : m.replicaPath.Apart containersPath := by
  unfold replicaPath
  split <;> decide

theorem agreeOff_annotations_of_annotation {a b : Json} (h : AgreeOff [annotationPath] a b) :
    AgreeOff [annotationsPath] a b :=
  h.mono fun q hq => by
    rw [List.mem_singleton] at hq
    exact ⟨annotationsPath, by simp, by rw [hq]; exact List.prefix_append _ _⟩

/-- Either way of noting a count puts it into the annotation and keeps all else. -/
theorem note_ok {m : Manifest} {value : String} {d : Json}
    (h : (if m.annotations?.isSome then PatchOperation.add annotationPath (.str value)
        else .add annotationsPath (.obj [(replicasAnnotationKey, .str value)])).apply m.document
      = .ok d) :
    (⟨d⟩ : Manifest).annotation? replicasAnnotationKey = some value
      ∧ AgreeOff [annotationsPath] m.document d := by
  split at h
  · obtain ⟨hat, hoff⟩ :=
      addAt_ok annotationsPath_isNamed index?_annotationKey (by decide) h
    refine ⟨?_, agreeOff_annotations_of_annotation hoff⟩
    rw [annotation?_eq]
    change (d.at? (annotationsPath ++ [replicasAnnotationKey])).bind text? = _
    rw [hat]
    rfl
  · have h' : m.document.addAt (["metadata"] ++ ["annotations"])
        (.obj [(replicasAnnotationKey, .str value)]) = .ok d := h
    obtain ⟨hat, hoff⟩ := addAt_ok (by decide) (by decide) (by decide) h'
    refine ⟨?_, hoff⟩
    rw [annotation?_eq, annotationPath, at?_append]
    change ((d.at? (["metadata"] ++ ["annotations"])).bind _).bind text? = _
    rw [hat, Option.bind_some, at?_obj_singleton]
    rfl

/-- When a manifest needs scaling, and which number is noted as the one from before. -/
theorem replicaPatch?_some {m : Manifest} {target before : Int32} {p : Patch}
    (h : replicaPatch? m target = some (p, before)) :
    ∃ count, m.replicaCount? = some count ∧ count ≠ target.toInt
      ∧ before = m.annotatedCount?.getD (Int32.ofInt (clamp32 count)) := by
  unfold replicaPatch? at h
  cases hcount : m.replicaCount? with
  | none => simp [hcount] at h
  | some count =>
      simp only [hcount] at h
      split at h
      · cases h
      · rename_i hne
        refine ⟨count, rfl, hne, ?_⟩
        cases hann : m.annotation? replicasAnnotationKey with
        | none =>
            have hnone : m.annotatedCount? = none := by simp [annotatedCount?, hann]
            simp only [hann, Option.some.injEq, Prod.mk.injEq] at h
            rw [hnone, ← h.2]
            rfl
        | some s =>
            simp only [hann, Option.some.injEq, Prod.mk.injEq] at h
            exact h.2.symm

/-- **Scaling does what it says.**  The patch that scales a manifest, when it applies, sets the
number of replicas, keeps an annotation that is there, notes the number from before in a new one,
and changes nothing else. -/
theorem scaled_of_apply {m : Manifest} {target before : Int32} {p : Patch} {d : Json}
    (h : replicaPatch? m target = some (p, before)) (hp : p.apply m.document = .ok d) :
    Scaled m ⟨d⟩ target before := by
  unfold replicaPatch? at h
  cases hcount : m.replicaCount? with
  | none => simp [hcount] at h
  | some count =>
      simp only [hcount] at h
      split at h
      · cases h
      · cases hann : m.annotation? replicasAnnotationKey with
        | some s =>
            simp only [hann, Option.some.injEq, Prod.mk.injEq] at h
            obtain ⟨rfl, rfl⟩ := h
            obtain ⟨hset, hsame, hoff⟩ := replaceCount_ok (Patch.apply_singleton_ok.1 hp)
            refine ⟨hset, hsame, ?_, containers_eq_of_agreeOff hoff m.replicaPath_apart_containers⟩
            rw [annotation?_eq_of_agreeOff hoff, hann]
            rfl
        | none =>
            simp only [hann, Option.some.injEq, Prod.mk.injEq] at h
            obtain ⟨rfl, rfl⟩ := h
            obtain ⟨d₁, hchange, hnote⟩ := Patch.apply_pair_ok.1 hp
            obtain ⟨hset, hsame, hoff⟩ := replaceCount_ok hchange
            have hobj : m.annotations? = (⟨d₁⟩ : Manifest).annotations? := by
              unfold annotations?
              rw [hoff ["metadata", "annotations"]]
              intro q hq
              rw [List.mem_singleton] at hq
              subst hq
              exact m.replicaPath_apart_annotations
            rw [hobj] at hnote
            obtain ⟨hnoted, hoff'⟩ := note_ok (m := ⟨d₁⟩) hnote
            refine ⟨?_, hsame.trans (sameOffScaling_of_agreeOff_annotations hoff'), ?_, ?_⟩
            · rw [replicaCount?_eq_of_agreeOff ⟨d₁⟩ ⟨d⟩ hoff', hset]
            · rw [hnoted, hann]
              rfl
            · have hkept : (⟨d⟩ : Manifest).containers = (⟨d₁⟩ : Manifest).containers :=
                containers_eq_of_agreeOff hoff' (by decide)
              rw [hkept]
              exact containers_eq_of_agreeOff hoff m.replicaPath_apart_containers

/-! ### Restoring -/

/-- The operations that take the annotation away, if there is one. -/
def cleanup (m : Manifest) : Patch :=
  if (m.annotation? replicasAnnotationKey).isSome then [.remove annotationPath] else []

/-- What taking the annotation away does. -/
theorem removeAnnotation_ok {m : Manifest} {d : Json}
    (h : (PatchOperation.remove annotationPath).apply m.document = .ok d) :
    (⟨d⟩ : Manifest).annotation? replicasAnnotationKey = none
      ∧ AgreeOff [annotationPath] m.document d := by
  obtain ⟨hat, hoff⟩ := removeAt_ok annotationsPath_isNamed index?_annotationKey h
  refine ⟨?_, hoff⟩
  rw [annotation?_eq]
  change (d.at? (annotationsPath ++ [replicasAnnotationKey])).bind text? = _
  rw [hat]
  rfl

theorem exists_removeAnnotation {m : Manifest} {s : String}
    (h : m.annotation? replicasAnnotationKey = some s) :
    ∃ d, (PatchOperation.remove annotationPath).apply m.document = .ok d := by
  rw [annotation?_eq] at h
  obtain ⟨x, hx, -⟩ := Option.bind_eq_some_iff.1 h
  exact removeAt_of_at? index?_annotationKey hx

/-- **Restoring does what it says.**  The patch that restores a manifest, when it applies, sets the
number of replicas, takes the annotation away, and changes nothing else. -/
theorem restored_of_apply {m : Manifest} {n : Int32} {d : Json}
    (hp : Patch.apply (.replace m.replicaPath (.ofWord32 n) :: m.cleanup) m.document = .ok d) :
    Restored m ⟨d⟩ n := by
  unfold cleanup at hp
  cases hann : m.annotation? replicasAnnotationKey with
  | none =>
      simp only [hann] at hp
      obtain ⟨hset, hsame, hoff⟩ := replaceCount_ok (Patch.apply_singleton_ok.1 hp)
      exact ⟨hset, hsame, by rw [annotation?_eq_of_agreeOff hoff, hann]⟩
  | some s =>
      simp only [hann] at hp
      obtain ⟨d₁, hchange, hremove⟩ := Patch.apply_pair_ok.1 hp
      obtain ⟨hset, hsame, -⟩ := replaceCount_ok hchange
      obtain ⟨hnone, hoff'⟩ := removeAnnotation_ok (m := ⟨d₁⟩) hremove
      have hoff'' := agreeOff_annotations_of_annotation hoff'
      refine ⟨?_, hsame.trans (sameOffScaling_of_agreeOff_annotations hoff''), hnone⟩
      rw [replicaCount?_eq_of_agreeOff ⟨d₁⟩ ⟨d⟩ hoff'', hset]

/-- The restoring patch applies to the manifest it was made for. -/
theorem exists_apply_restorePatch {m : Manifest} {count : Int} (n : Int32)
    (h : m.replicaCount? = some count) :
    ∃ d, Patch.apply (.replace m.replicaPath (.ofWord32 n) :: m.cleanup) m.document = .ok d := by
  rw [replicaCount?_eq] at h
  obtain ⟨x, hx, -⟩ := Option.bind_eq_some_iff.1 h
  obtain ⟨d₁, hchange⟩ := replaceAt_of_at? (.ofWord32 n) hx
  unfold cleanup
  cases hann : m.annotation? replicasAnnotationKey with
  | none => exact ⟨d₁, Patch.apply_singleton_ok.2 hchange⟩
  | some s =>
      obtain ⟨-, -, hoff⟩ := replaceCount_ok (m := m) hchange
      have hann' : (⟨d₁⟩ : Manifest).annotation? replicasAnnotationKey = some s := by
        rw [annotation?_eq_of_agreeOff hoff, hann]
      obtain ⟨d, hd⟩ := exists_removeAnnotation hann'
      exact ⟨d, Patch.apply_pair_ok.2 ⟨d₁, hchange, hd⟩⟩

end Manifest

end Slumber
