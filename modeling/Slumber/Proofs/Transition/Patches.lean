import Slumber.Cluster.Store
import Slumber.Proofs.Json.Pointers
import Slumber.Proofs.Transition.Counts

/-!
# Where the patches of counts change a manifest

The patch that scales a manifest and the patch that restores it apply to every manifest they are
made for, and change it at two places only: the number of replicas, and the annotation that keeps
the number from before. What is said here is said of what a cluster makes of the patch as it is
sent.

* `Json.addAt_of_at?` — a field can be added to an object that is there;
* `Manifest.ScaledInPlace`, `Manifest.RestoredInPlace` — what the patches make of a manifest, place
  by place;
* `restorePatch?`, `restoreObject_eq` — the patch with which an object is restored;
* `count_patches_in_place` — both patches apply, and do just that.
-/

namespace Slumber

open Json Decimal

namespace Json

/-- Edits at two places, one after the other. -/
theorem AgreeOff.step {p q : Pointer} {a b c : Json} (h : AgreeOff [p] a b)
    (h' : AgreeOff [q] b c) : AgreeOff [p, q] a c := by
  have hfirst : AgreeOff [p, q] a b := h.mono fun r hr => ⟨r, by simp_all, List.prefix_rfl⟩
  have hsecond : AgreeOff [p, q] b c := h'.mono fun r hr => ⟨r, by simp_all, List.prefix_rfl⟩
  exact hfirst.trans hsecond

/-- What stands apart from an edit is as before. -/
theorem AgreeOff.at?_eq {p q : Pointer} {a b : Json} (h : AgreeOff [p] a b) (hq : p.Apart q) :
    b.at? q = a.at? q :=
  (h q (List.forall_mem_singleton.2 hq)).symm

/-- A field can be added to an object that is there. -/
theorem addAt_of_at? {dir : Pointer} {j : Json} {fields : List (String × Json)} (s : String)
    (v : Json) (h : j.at? dir = some (.obj fields)) : ∃ j', j.addAt (dir ++ [s]) v = .ok j' := by
  rw [addAt_concat]
  exact modifyAt_of_at? h rfl

end Json

theorem toInt_ofInt_clamp32 (i : Int) : (Int32.ofInt (clamp32 i)).toInt = clamp32 i := by
  have hlow : -0x80000000 ≤ clamp32 i := Int.le_max_left _ _
  have hhigh : clamp32 i ≤ 0x7FFFFFFF := by
    unfold clamp32
    omega
  exact Int32.toInt_ofInt_of_le hlow (by omega)

/-- A patch that applies is what a cluster makes of the document that was sent. -/
theorem Cluster.applyPatch_toJson {p : Patch} {doc d : Json} (h : p.apply doc = .ok d) :
    Cluster.applyPatch doc p.toJson .json = .ok d := by
  simp only [Cluster.applyPatch, Patch.ofJson?_toJson, h]

namespace Manifest

variable {m : Manifest}

/-! ### The two places -/

/-- Replacing the number of replicas touches nothing else. -/
theorem exists_replaceCount {x : Json} (n : Int32) (h : m.document.at? m.replicaPath = some x) :
    ∃ d, (PatchOperation.replace m.replicaPath (.ofWord32 n)).apply m.document = .ok d
      ∧ d.at? m.replicaPath = some (.int n.toInt) ∧ AgreeOff [m.replicaPath] m.document d := by
  obtain ⟨d, hd⟩ := replaceAt_of_at? (.ofWord32 n) h
  exact ⟨d, hd, replaceAt_ok m.replicaPath_isNamed hd⟩

theorem replicaPath_apart_metadata (m : Manifest) : m.replicaPath.Apart ["metadata"] := by
  unfold replicaPath
  split <;> decide

theorem replicaPath_apart_annotation (m : Manifest) : m.replicaPath.Apart annotationPath :=
  (m.replicaPath_apart_annotations.symm.below [replicasAnnotationKey]).symm

theorem annotations?_eq_some_iff {j : Json} :
    m.annotations? = some j
      ↔ ∃ entries, j = .obj entries ∧ m.document.at? annotationsPath = some (.obj entries) := by
  show (m.document.at? annotationsPath).filter isObject = some j ↔ _
  rw [Option.filter_eq_some_iff]
  constructor
  · rintro ⟨hj, hobject⟩
    cases j with
    | obj entries => exact ⟨entries, rfl, hj⟩
    | _ => cases hobject
  · rintro ⟨entries, rfl, hj⟩
    exact ⟨hj, rfl⟩

/-- A text can be noted in the annotation of any document whose annotations are as in `m`. Other
annotations stay; without an object of annotations there is a new one. -/
theorem exists_note {doc : Json} {fields : List (String × Json)} (s : String)
    (hmeta : doc.at? ["metadata"] = some (.obj fields))
    (hsame : doc.at? annotationsPath = m.document.at? annotationsPath) :
    ∃ d, (if m.annotations?.isSome then PatchOperation.add annotationPath (.str s)
          else .add annotationsPath (.obj [(replicasAnnotationKey, .str s)])).apply doc = .ok d
      ∧ d.at? annotationPath = some (.str s) ∧ AgreeOff [annotationsPath] doc d
      ∧ (∀ entries, m.annotations? = some entries → AgreeOff [annotationPath] doc d)
      ∧ (m.annotations? = none →
        d.at? annotationsPath = some (.obj [(replicasAnnotationKey, .str s)])) := by
  cases hannotations : m.annotations? with
  | some j =>
      obtain ⟨entries, rfl, hentries⟩ := annotations?_eq_some_iff.1 hannotations
      obtain ⟨d, hadd⟩ := addAt_of_at? replicasAnnotationKey (.str s) (hsame.trans hentries)
      obtain ⟨hnote, hoff⟩ := addAt_ok annotationsPath_isNamed index?_annotationKey (by decide) hadd
      exact ⟨d, hadd, hnote, agreeOff_annotations_of_annotation hoff, fun _ _ => hoff,
        (fun hnone => nomatch hnone)⟩
  | none =>
      obtain ⟨d, hadd⟩ :=
        addAt_of_at? "annotations" (.obj [(replicasAnnotationKey, .str s)]) hmeta
      have hnamed : Pointer.IsNamed ["metadata"] := by decide
      obtain ⟨hnotes, hoff⟩ := addAt_ok hnamed (by decide) (by decide) hadd
      refine ⟨d, hadd, ?_, hoff, (fun _ hsome => nomatch hsome), fun _ => hnotes⟩
      rw [annotationPath, at?_append]
      change (d.at? (["metadata"] ++ ["annotations"])).bind _ = _
      rw [hnotes, Option.bind_some, at?_obj_singleton]
      rfl

/-- The text at the place of the annotation is the annotation. -/
theorem annotation?_of_at? {s : String} (h : m.document.at? annotationPath = some (.str s)) :
    m.annotation? replicasAnnotationKey = some s := by
  rw [annotation?_eq, h]
  rfl

/-! ### Scaling -/

/-- `m'` is `m` with the number of replicas `target` in place of `count`. A text in the annotation
is kept; else the annotations are an object with `count`, as far as it fits, in the annotation,
beside the other entries if they were an object before. `before` is what the annotation now says, or
`count` if that is no number. -/
structure ScaledInPlace (m m' : Manifest) (target : Int32) (count : Int) (before : Int32) :
    Prop where
  replicas : m'.document.at? m.replicaPath = some (.int target.toInt)
  kept : ∀ s, m.annotation? replicasAnnotationKey = some s →
    AgreeOff [m.replicaPath] m.document m'.document
  noted : m.annotation? replicasAnnotationKey = none →
    m'.document.at? annotationPath = some (.str (toString (clamp32 count)))
  beside : ∀ entries, m.annotations? = some entries →
    AgreeOff [m.replicaPath, annotationPath] m.document m'.document
  alone : m.annotations? = none →
    m'.annotations? = some (.obj [(replicasAnnotationKey, .str (toString (clamp32 count)))])
      ∧ AgreeOff [m.replicaPath, annotationsPath] m.document m'.document
  before_eq : before = m'.annotatedCount?.getD (Int32.ofInt (clamp32 count))

/-- **Scaling in place.**  The patch that scales a manifest with an object for its metadata applies,
and changes the two places only. -/
theorem scaledInPlace_of_replicaPatch? {target before : Int32} {p : Patch}
    {fields : List (String × Json)} (hmeta : m.document.at? ["metadata"] = some (.obj fields))
    (h : replicaPatch? m target = some (p, before)) :
    ∃ count d, m.replicaCount? = some count ∧ p.apply m.document = .ok d
      ∧ ScaledInPlace m ⟨d⟩ target count before := by
  obtain ⟨count, hcount, hne, hbefore⟩ := replicaPatch?_some h
  have hplace := hcount
  rw [replicaCount?_eq] at hplace
  obtain ⟨x, hx, -⟩ := Option.bind_eq_some_iff.1 hplace
  obtain ⟨d₁, hchange, hset, hoff⟩ := exists_replaceCount target hx
  simp only [replicaPatch?, hcount, if_neg hne, toInt_ofInt_clamp32] at h
  cases hann : m.annotation? replicasAnnotationKey with
  | some s =>
      simp only [hann, Option.some.injEq, Prod.mk.injEq] at h
      obtain ⟨rfl, -⟩ := h
      refine ⟨count, d₁, hcount, Patch.apply_singleton_ok.2 hchange, hset, fun _ _ => hoff,
        fun hnone => ?_, fun _ _ => ?_, fun hnone => ?_, ?_⟩
      · cases hann.symm.trans hnone
      · exact hoff.mono fun q hq => ⟨q, by simp_all, List.prefix_rfl⟩
      · simp [annotation?, hnone] at hann
      · rw [annotatedCount?_eq_of_annotation? (annotation?_eq_of_agreeOff hoff)]
        exact hbefore
  | none =>
      simp only [hann, Option.some.injEq, Prod.mk.injEq] at h
      obtain ⟨rfl, rfl⟩ := h
      -- The first edit leaves the metadata and the annotations as the second one needs them.
      obtain ⟨d, hadd, hnote, hoff', hbeside, halone⟩ := exists_note (toString (clamp32 count))
        ((hoff.at?_eq m.replicaPath_apart_metadata).trans hmeta)
        (hoff.at?_eq m.replicaPath_apart_annotations)
      have hread : (⟨d⟩ : Manifest).annotatedCount? = some (Int32.ofInt (clamp32 count)) := by
        apply annotatedCount?_of_toString
        rw [toInt_ofInt_clamp32]
        exact annotation?_of_at? hnote
      refine ⟨count, d, hcount, Patch.apply_pair_ok.2 ⟨d₁, hchange, hadd⟩, ?_, fun s hs => ?_,
        fun _ => hnote, fun entries hsome => hoff.step (hbeside entries hsome),
        fun hnone => ⟨annotations?_eq_some_iff.2 ⟨_, rfl, halone hnone⟩, hoff.step hoff'⟩, ?_⟩
      · exact (hoff'.at?_eq m.replicaPath_apart_annotations.symm).trans hset
      · cases hann.symm.trans hs
      · rw [hread]
        rfl

/-! ### Restoring -/

/-- `m'` is `m` with the number of replicas `count` and without the annotation. -/
structure RestoredInPlace (m m' : Manifest) (count : Int32) : Prop where
  replicas : m'.document.at? m.replicaPath = some (.int count.toInt)
  annotation : m'.document.at? annotationPath = none
  others : AgreeOff [m.replicaPath, annotationPath] m.document m'.document

end Manifest

/-- The patch with which an object is restored that has another number of replicas, and the number
that it is restored to. -/
def restorePatch? (m : Manifest) (h : History) : Option (Patch × Int32) :=
  match m.replicaCount?, restoreCount? m h with
  | some current, some count =>
    if current = count.toInt then none
    else some (.replace m.replicaPath (.ofWord32 count) :: m.cleanup, count)
  | _, _ => none

theorem restorePatch?_eq_some_iff {m : Manifest} {h : History} {p : Patch} {count : Int32} :
    restorePatch? m h = some (p, count)
      ↔ restoreCount? m h = some count ∧ p = .replace m.replicaPath (.ofWord32 count) :: m.cleanup
        ∧ ∃ current, m.replicaCount? = some current ∧ current ≠ count.toInt := by
  unfold restorePatch?
  cases m.replicaCount? with
  | none => simp
  | some current =>
      cases restoreCount? m h with
      | none => simp
      | some n =>
          by_cases heq : current = n.toInt
          · simp only [if_pos heq, Option.some.injEq]
            constructor
            · rintro ⟨⟩
            · rintro ⟨rfl, -, _, rfl, hne⟩
              exact absurd heq hne
          · simp only [if_neg heq, Option.some.injEq, Prod.mk.injEq]
            constructor
            · rintro ⟨rfl, rfl⟩
              exact ⟨rfl, rfl, current, rfl, heq⟩
            · rintro ⟨rfl, rfl, -⟩
              exact ⟨rfl, rfl⟩

/-- The patch is the one that is sent to restore the object. -/
theorem restoreObject_eq {σ : Type} [ResourceClient σ] {m : Manifest} {h : History} {p : Patch}
    {count : Int32} (hp : restorePatch? m h = some (p, count)) :
    (restoreObject m h : StateM σ RestoreOutcome) = RestoreOutcome.restored <$>
      patchObject m p.toJson .json { key := m.key.text, countBefore := count } := by
  obtain ⟨hcount, rfl, current, hcurrent, hne⟩ := restorePatch?_eq_some_iff.1 hp
  unfold restoreObject
  simp only [hcurrent, hcount, if_neg hne]
  rfl

/-- **Restoring in place.**  The patch that restores a manifest with a text in the annotation
applies, and changes the two places only. -/
theorem Manifest.restoredInPlace_of_restorePatch? {m : Manifest} {h : History} {s : String}
    {p : Patch} {count : Int32} (hann : m.annotation? replicasAnnotationKey = some s)
    (hp : restorePatch? m h = some (p, count)) :
    ∃ d, p.apply m.document = .ok d ∧ RestoredInPlace m ⟨d⟩ count := by
  obtain ⟨-, rfl, current, hcurrent, -⟩ := restorePatch?_eq_some_iff.1 hp
  rw [replicaCount?_eq] at hcurrent
  obtain ⟨x, hx, -⟩ := Option.bind_eq_some_iff.1 hcurrent
  obtain ⟨d₁, hchange, hset, hoff⟩ := exists_replaceCount count hx
  have hann₁ : (⟨d₁⟩ : Manifest).annotation? replicasAnnotationKey = some s :=
    (annotation?_eq_of_agreeOff hoff).trans hann
  obtain ⟨d, hremove⟩ := exists_removeAnnotation hann₁
  obtain ⟨hgone, hoff'⟩ := removeAt_ok annotationsPath_isNamed index?_annotationKey hremove
  have hcleanup : m.cleanup = [.remove annotationPath] := by simp [cleanup, hann]
  refine ⟨d, ?_, ?_, hgone, hoff.step hoff'⟩
  · rw [hcleanup]
    exact Patch.apply_pair_ok.2 ⟨d₁, hchange, hremove⟩
  · exact (hoff'.at?_eq m.replicaPath_apart_annotation.symm).trans hset

/-! ### The main theorem -/

/-- **Patches of counts change two places.**  The cluster takes each patch as it is sent, and

* for a manifest with an object for its metadata, the patch that scales it gives the manifest with
  the new number of replicas and with the old one noted, unless the annotation was a text already;
  the number that is reported is the one that the annotation then says, or else the old one;
* for a manifest with a text in the annotation, the patch that restores it gives the manifest with
  the number from before and without the annotation.

Everything else in the manifest is as it was. -/
theorem count_patches_in_place :
    (∀ (m : Manifest) (target before : Int32) (p : Patch) (fields : List (String × Json)),
      m.document.at? ["metadata"] = some (.obj fields) →
      replicaPatch? m target = some (p, before) →
        ∃ count d, m.replicaCount? = some count
          ∧ Cluster.applyPatch m.document p.toJson .json = .ok d
          ∧ m.ScaledInPlace ⟨d⟩ target count before)
    ∧ ∀ (m : Manifest) (h : History) (s : String) (p : Patch) (count : Int32),
      m.annotation? replicasAnnotationKey = some s → restorePatch? m h = some (p, count) →
        (∀ {σ : Type} [ResourceClient σ],
          (restoreObject m h : StateM σ RestoreOutcome) = RestoreOutcome.restored <$>
            patchObject m p.toJson .json { key := m.key.text, countBefore := count })
        ∧ ∃ d, Cluster.applyPatch m.document p.toJson .json = .ok d
          ∧ m.RestoredInPlace ⟨d⟩ count := by
  refine ⟨fun m target before p fields hmeta hp => ?_, fun m h s p count hann hp => ⟨?_, ?_⟩⟩
  · obtain ⟨count, d, hcount, hd, hscaled⟩ := Manifest.scaledInPlace_of_replicaPatch? hmeta hp
    exact ⟨count, d, hcount, Cluster.applyPatch_toJson hd, hscaled⟩
  · exact restoreObject_eq hp
  · obtain ⟨d, hd, hrestored⟩ := Manifest.restoredInPlace_of_restorePatch? hann hp
    exact ⟨d, Cluster.applyPatch_toJson hd, hrestored⟩

/-- An autoscaler with more replicas than a count of 32 bits holds, and with a number where the
annotation should be a text. -/
def crowdedAutoscaler : Manifest where
  document := .object
    [("kind", .str "HorizontalPodAutoscaler"),
     ("metadata", .object [("annotations",
        .object [("team", .str "shop"), (replicasAnnotationKey, .int 7)])]),
     ("spec", .object [("minReplicas", .int 3000000000)])]

/-- A workload that sleeps, and should have three replicas. -/
def sleepingWorkload : Manifest where
  document := .object
    [("kind", .str "Deployment"),
     ("metadata", .object [("annotations", .object [(replicasAnnotationKey, .str " 3 ")])]),
     ("spec", .object [("replicas", .int 0)])]

/-- The autoscaler is scaled to none, and the workload is restored. -/
theorem count_patches_in_place_sample :
    (∃ fields p d, crowdedAutoscaler.document.at? ["metadata"] = some (.obj fields)
      ∧ replicaPatch? crowdedAutoscaler 0 = some (p, 2147483647)
      ∧ Cluster.applyPatch crowdedAutoscaler.document p.toJson .json = .ok d
      ∧ crowdedAutoscaler.ScaledInPlace ⟨d⟩ 0 3000000000 2147483647)
    ∧ ∃ p d, sleepingWorkload.annotation? replicasAnnotationKey = some " 3 "
      ∧ restorePatch? sleepingWorkload ⟨[], 1⟩ = some (p, 3)
      ∧ Cluster.applyPatch sleepingWorkload.document p.toJson .json = .ok d
      ∧ sleepingWorkload.RestoredInPlace ⟨d⟩ 3 := by
  have hcount : crowdedAutoscaler.replicaCount? = some 3000000000 := by decide +kernel
  have hbefore : (replicaPatch? crowdedAutoscaler 0).map (·.2) = some 2147483647 := by
    decide +kernel
  have hann : sleepingWorkload.annotation? replicasAnnotationKey = some " 3 " := by decide +kernel
  have hrestored : (restorePatch? sleepingWorkload ⟨[], 1⟩).map (·.2) = some 3 := by decide +kernel
  obtain ⟨⟨p, _⟩, hp, rfl⟩ := Option.map_eq_some_iff.1 hbefore
  obtain ⟨⟨p', _⟩, hp', rfl⟩ := Option.map_eq_some_iff.1 hrestored
  obtain ⟨hscales, hrestores⟩ := count_patches_in_place
  obtain ⟨count, d, hcount', hd, hscaled⟩ := hscales crowdedAutoscaler 0 _ p _ rfl hp
  obtain rfl : count = 3000000000 := Option.some.inj (hcount'.symm.trans hcount)
  obtain ⟨-, d', hd', hinPlace⟩ := hrestores sleepingWorkload _ _ p' _ hann hp'
  exact ⟨⟨_, p, d, rfl, hp, hd, hscaled⟩, p', d', hann, hp', hd', hinPlace⟩

end Slumber
