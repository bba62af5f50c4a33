import Slumber.Proofs.Transition.Deleted
import Slumber.Proofs.Transition.Recovery

/-!
# Waking up what is awake

An object without an annotation has nothing that keeps a number of replicas but the history. So when
it is woken up once more, a patch is sent only if the history records a positive number and the
object has another one: then that number is put in place. A spec may wake up the same object in more
than one of its groups, and yet this is done at most once in an execution.

* `Transition.run_steps` — what holds of every application of a transition, holds of a run;
* `Cluster.PatchesOnly` — which patches of an object were received;
* `Manifest.Corrects` — the one patch that an awake object can get;
* `executeGroup_settles`, `executeGroups_settles` — what groups do to an awake object that wake
  objects up or delete them.
-/

namespace Slumber

open Cluster Selection Manifest

/-! ### Runs -/

/-- **Induction over runs.**  A relation between clusters that every application of a transition
keeps, to an object that is as it was in the beginning, is kept by a whole run. -/
theorem Transition.runFrom_steps {R : Cluster → Cluster → Prop} (hrefl : ∀ c, R c c)
    (htrans : ∀ {a b c}, R a b → R b c → R a c) (t : Transition) (store : Bool) (h : History)
    {c₀ : Cluster} (hstep : ∀ m c, c.Keyed → c₀.object? m.key = some m → c.object? m.key = some m →
      R c (t.applyTo store h m c).2)
    {targets : List Manifest} (htargets : ∀ m ∈ targets, c₀.object? m.key = some m)
    {seen : List ObjectKey} {i : AutoscalerIndex} {c : Cluster} (hinv : Running t c₀ seen i c)
    (report : Report) : R c (t.runFrom store h targets i seen report c).2 := by
  induction targets generalizing i seen c report with
  | nil => exact hrefl c
  | cons target rest ih =>
      have hrest : ∀ m ∈ rest, c₀.object? m.key = some m :=
        fun m hm => htargets m (List.mem_cons_of_mem _ hm)
      obtain ⟨object, i', hobject, hinv', -, hfresh⟩ :=
        Transition.scalingObject_running hinv (htargets target List.mem_cons_self)
      rw [runFrom_cons hobject]
      split
      · exact ih hrest hinv' report
      · rename_i hseen
        have hnow : c.object? object.key = some object :=
          (hinv.touches.object?_eq _ hseen).trans (hfresh hseen)
        exact htrans (hstep object c hinv.keyed (hfresh hseen) hnow)
          (ih hrest (hinv'.handle hnow store h) _)

theorem Transition.run_steps {R : Cluster → Cluster → Prop} (hrefl : ∀ c, R c c)
    (htrans : ∀ {a b c}, R a b → R b c → R a c) (t : Transition) (store : Bool) (h : History)
    {c : Cluster} (hc : c.Keyed)
    (hstep : ∀ m c', c'.Keyed → c.object? m.key = some m → c'.object? m.key = some m →
      R c' (t.applyTo store h m c').2)
    {targets : List Manifest} (htargets : ∀ m ∈ targets, c.object? m.key = some m) :
    R c (t.run store targets h c).2 :=
  t.runFrom_steps hrefl htrans store h hstep htargets (.start t hc) _

/-! ### Received patches -/

/-- All patches of the object that were received between two clusters are of some kind. -/
def Cluster.PatchesOnly (k : ObjectKey) (good : ReceivedPatch → Prop) (c c' : Cluster) : Prop :=
  ∃ new, c'.patches = c.patches ++ new ∧ ∀ p ∈ new, p.key = k → good p

section

variable {k : ObjectKey} {good good' : ReceivedPatch → Prop} {c c' c'' : Cluster}

theorem Cluster.PatchesOnly.of_eq (h : c'.patches = c.patches) : PatchesOnly k good c c' :=
  ⟨[], by rw [h, List.append_nil], fun p hp => (nomatch hp)⟩

theorem Cluster.PatchesOnly.trans (h : PatchesOnly k good c c') (h' : PatchesOnly k good c' c'') :
    PatchesOnly k good c c'' := by
  obtain ⟨new, hnew, hgood⟩ := h
  obtain ⟨new', hnew', hgood'⟩ := h'
  refine ⟨new ++ new', by rw [hnew', hnew, List.append_assoc], fun p hp hk => ?_⟩
  rcases List.mem_append.1 hp with hp | hp
  · exact hgood p hp hk
  · exact hgood' p hp hk

theorem Cluster.PatchesOnly.imp (h : PatchesOnly k good c c') (himp : ∀ p, good p → good' p) :
    PatchesOnly k good' c c' := by
  obtain ⟨new, hnew, hgood⟩ := h
  exact ⟨new, hnew, fun p hp hk => himp p (hgood p hp hk)⟩

theorem patches_patch (c : Cluster) (k : ObjectKey) (patch : Json) (flavour : PatchKind) :
    (c.patch k patch flavour).2.patches = c.patches ++ [⟨k, patch, flavour⟩] := by
  rw [patch_eq]
  cases c.patched k patch flavour <;> rfl

theorem patches_patchObject {m : Manifest} (hc : c.Addresses m) (patch : Json)
    (flavour : PatchKind) (o : ImpactedObject) :
    (patchObject m patch flavour o c).2.patches = c.patches ++ [⟨m.key, patch, flavour⟩] := by
  rw [patchObject_eq hc]
  exact patches_patch c m.key patch flavour

/-- An object that is not touched gets no patches. -/
theorem Cluster.PatchesOnly.of_touchesOnly {touched : ObjectKey → Prop}
    (h : TouchesOnly touched c c') (hk : ¬ touched k) : PatchesOnly k good c c' := by
  obtain ⟨new, hnew, htouched⟩ := h.patches
  exact ⟨new, hnew, fun p hp hkey => absurd (hkey ▸ htouched p hp) hk⟩

end

/-! ### One awake object -/

/-- The object has no annotation. -/
def Manifest.IsUnmarked (m : Manifest) : Prop :=
  m.annotation? replicasAnnotationKey = none

instance (m : Manifest) : Decidable m.IsUnmarked :=
  inferInstanceAs (Decidable (_ = none))

/-- The patch puts the number of replicas in place that the history records for an object without an
annotation, which has another one. -/
def Manifest.Corrects (h : History) (m : Manifest) (p : ReceivedPatch) : Prop :=
  ∃ (n : Int32) (count : Int), h.countBefore? m.key.text = some n ∧ 0 < n.toInt
    ∧ m.replicaCount? = some count ∧ count ≠ n.toInt
    ∧ p = ⟨m.key, Patch.toJson [.replace m.replicaPath (.ofWord32 n)], .json⟩

/-- Of the object `m` without an annotation: it is gone, as it was, or has the number that the
history records, and no annotation. -/
def Cluster.Settled (h : History) (m : Manifest) (c : Cluster) : Prop :=
  c.object? m.key = none ∨ c.object? m.key = some m
    ∨ ∃ (n : Int32) (m' : Manifest), h.countBefore? m.key.text = some n ∧ 0 < n.toInt
      ∧ c.object? m.key = some m' ∧ m'.IsAwake n

section

variable {m : Manifest} {h : History} {c c' : Cluster} {t : Transition} {store : Bool}

theorem restoreCount?_of_unmarked (hm : m.IsUnmarked) {n : Int32} :
    restoreCount? m h = some n ↔ h.countBefore? m.key.text = some n ∧ 0 < n.toInt := by
  unfold restoreCount?
  rw [annotatedCount?_of_none hm]
  show (h.countBefore? m.key.text).filter _ = some n ↔ _
  rw [Option.filter_eq_some_iff, decide_eq_true_eq]

/-- What a transition makes of an awake object that wakes objects up or deletes them. -/
theorem Effect.settles {accepts : Prop} {after : Option Manifest} {impacted : List ImpactedObject}
    {excluded : List ExcludedObject} (he : Effect t store h accepts m after impacted excluded)
    (ht : t = .unhibernate ∨ t = .delete) (hm : m.IsUnmarked)
    (hafter : c'.object? m.key = after) : Settled h m c' := by
  cases he with
  | unscaled hkind =>
      rcases hkind with rfl | ⟨_, _, rfl⟩ <;> rcases ht with ht | ht <;> cases ht
  | scaled htarget => rcases ht with rfl | rfl <;> cases htarget
  | scaleFailed htarget => rcases ht with rfl | rfl <;> cases htarget
  | uncounted | unknown | awake | cleanupFailed | restoreFailed => exact .inr (.inl hafter)
  | cleaned _ _ _ hann =>
      rw [hm] at hann
      cases hann
  | @restored n count m' _ hn _ _ hm' =>
      obtain ⟨hrecorded, hpos⟩ := (restoreCount?_of_unmarked hm).1 hn
      exact .inr (.inr ⟨n, m', hrecorded, hpos, hafter, hm'.annotation, hm'.count⟩)
  | deleted => exact .inl hafter

/-- Waking up an object without an annotation sends at most the patch that corrects its count. -/
theorem restoreObject_patchesOnly (hc : c.Addresses m) (hm : m.IsUnmarked) :
    PatchesOnly m.key (Corrects h m) c (restoreObject m h c).2 := by
  have hcleanup : (m.annotation? replicasAnnotationKey).isSome = false := by
    rw [show m.annotation? replicasAnnotationKey = none from hm]
    rfl
  unfold restoreObject
  cases hcount : m.replicaCount? with
  | none => exact .of_eq rfl
  | some count =>
      cases hn : restoreCount? m h with
      | none => exact .of_eq rfl
      | some n =>
          dsimp only
          rw [hcleanup]
          split
          · exact .of_eq rfl
          · rename_i hne
            obtain ⟨hrecorded, hpos⟩ := (restoreCount?_of_unmarked hm).1 hn
            exact ⟨_, patches_patchObject hc _ _ _, fun p hp _ =>
              ⟨n, count, hrecorded, hpos, hcount, hne, List.mem_singleton.1 hp⟩⟩

/-- So does a transition that wakes the object up or deletes it. -/
theorem Transition.applyTo_patchesOnly (hc : c.Addresses m) (hm : m.IsUnmarked)
    (ht : t = .unhibernate ∨ t = .delete) :
    PatchesOnly m.key (Corrects h m) c (t.applyTo store h m c).2 := by
  rcases ht with rfl | rfl
  · have hstate : (applyTo .unhibernate store h m c).2 = (restoreObject m h c).2 := by
      simp only [applyTo, bind_apply]
      cases (restoreObject m h c).1 <;> rfl
    rw [hstate]
    exact restoreObject_patchesOnly hc hm
  · have ha : c.keyOf m.namespaceName m.objectKind m.name = m.key := hc
    refine .of_eq ?_
    have hstate : (applyTo .delete store h m c).2 = (c.delete m.key).2 := by
      simp only [applyTo, deleteObject, bind_apply, client_delete_apply, ha]
      cases (c.delete m.key).1 <;> rfl
    rw [hstate]
    unfold Cluster.delete
    cases c.object? m.key <;> rfl

end

/-! ### Groups -/

section

variable {m : Manifest} {hist : History} {c c' : Cluster} {t : Transition} {now : Instant}
  {s : Spec} {rules : List Rule} {report : Report} {isActive : Bool} {range : Option Nat}
  {groups : List (Action × List Rule)} {reports : List Report} {k : ObjectKey}

/-- What a group does not find, it neither patches nor brings into being. -/
theorem executeGroup_absent {good : ReceivedPatch → Prop} (hc : c.Keyed)
    (hrun : executeGroup now s t rules hist c = .ok (report, c')) (hk : c.object? k = none) :
    PatchesOnly k good c c' ∧ c'.object? k = none := by
  obtain ⟨all, -, hselects, -, rfl⟩ := executeGroup_ok hc hrun
  obtain ⟨steps, -, hran⟩ := executeGroup_ran hc hselects t s.storeDeleted hist
  have huntouched : k ∉ stepKeys steps := by
    intro hmem
    obtain ⟨step, hstep, rfl⟩ := List.mem_map.1 hmem
    obtain ⟨-, -, -, hobject, -⟩ := hran.done step hstep
    rw [hk] at hobject
    cases hobject
  exact ⟨.of_touchesOnly hran.touches huntouched, (hran.touches.object?_eq k huntouched).trans hk⟩

/-- **One group.**  A group that wakes objects up or deletes them sends at most the patch that
corrects the count of an object without an annotation, and settles the object. -/
theorem executeGroup_settles (hc : c.Keyed)
    (hrun : executeGroup now s t rules hist c = .ok (report, c'))
    (ht : t = .unhibernate ∨ t = .delete) (hheld : c.object? m.key = some m)
    (hm : m.IsUnmarked) : PatchesOnly m.key (Corrects hist m) c c' ∧ Settled hist m c' := by
  obtain ⟨all, -, hselects, -, rfl⟩ := executeGroup_ok hc hrun
  have htargets : ∀ target ∈ all.targets, c.object? target.key = some target :=
    fun target htarget => ((mem_targets_iff hc hselects).1 htarget).1
  constructor
  · refine t.run_steps (fun c => .of_eq rfl) (fun h h' => h.trans h') s.storeDeleted hist hc
      (fun m' c₁ hc₁ hstart hm' => ?_) htargets
    by_cases hkey : m'.key = m.key
    · -- The object is handled as it was in the beginning.
      obtain rfl : m' = m := by
        rw [hkey, hheld, Option.some.injEq] at hstart
        exact hstart.symm
      exact Transition.applyTo_patchesOnly (hc₁.addresses hm') hm ht
    · exact .of_touchesOnly (Transition.applyTo_touchesOnly (hc₁.addresses hm') t _ _)
        fun hsame => hkey hsame.symm
  · obtain ⟨steps, -, hran⟩ := executeGroup_ran hc hselects t s.storeDeleted hist
    by_cases hmem : m.key ∈ stepKeys steps
    · obtain ⟨step, hstep, hkey⟩ := List.mem_map.1 hmem
      have hkeeps : t.KeepsResources := by
        rcases ht with rfl | rfl <;> trivial
      obtain rfl : step.object = m := hran.object_eq_of_key hstep hheld hkey
      exact ((hran.done step hstep).effect hkeeps).settles ht hm rfl
    · exact .inr (.inl ((hran.touches.object?_eq _ hmem).trans hheld))

/-- The object stays settled, and gets no other patches. -/
theorem executeGroup_stays_settled (hc : c.Keyed)
    (hrun : executeGroup now s t rules hist c = .ok (report, c'))
    (ht : t = .unhibernate ∨ t = .delete) (hm : m.IsUnmarked) (hsettled : Settled hist m c) :
    PatchesOnly m.key (Corrects hist m) c c' ∧ Settled hist m c' := by
  rcases hsettled with hgone | hsame | ⟨n, m', hn, hpos, hheld, hawake⟩
  · obtain ⟨hpatches, hgone'⟩ := executeGroup_absent hc hrun hgone
    exact ⟨hpatches, .inl hgone'⟩
  · exact executeGroup_settles hc hrun ht hsame hm
  · -- The count is right by now.
    have hkey : m'.key = m.key := hc.key_eq hheld
    obtain ⟨hpatches, hsettled'⟩ :=
      executeGroup_settles hc hrun ht (m := m') (by rw [hkey]; exact hheld) hawake.1
    rw [hkey] at hpatches
    constructor
    · refine hpatches.imp fun p hp => ?_
      obtain ⟨n', count, hn', -, hcount, hne, -⟩ := hp
      rw [hkey, hn, Option.some.injEq] at hn'
      rw [hawake.2, Option.some.injEq] at hcount
      exact absurd (hcount.symm.trans (hn' ▸ rfl)) hne
    · unfold Settled at hsettled' ⊢
      rw [hkey] at hsettled'
      rcases hsettled' with hgone | hsame | ⟨n', m'', hn', hpos', hheld', hawake'⟩
      · exact .inl hgone
      · exact .inr (.inr ⟨n, m', hn, hpos, hsame, hawake⟩)
      · exact .inr (.inr ⟨n', m'', hn', hpos', hheld', hawake'⟩)

/-- **Several groups.**  None of them puts objects to sleep or scales them, by what is reported. -/
theorem executeGroups_settles (hc : c.Keyed)
    (hrun : executeGroups now s isActive range hist groups c = .ok (reports, c'))
    (hquiet : ∀ r ∈ reports, r.action ≠ .hibernate ∧ r.action ≠ .scale) (hm : m.IsUnmarked)
    (hsettled : Settled hist m c) :
    PatchesOnly m.key (Corrects hist m) c c' ∧ Settled hist m c' := by
  induction groups generalizing c reports with
  | nil =>
      cases hrun
      exact ⟨.of_eq rfl, hsettled⟩
  | cons group groups ih =>
      obtain ⟨action, rules⟩ := group
      cases ht : Transition.resolve action isActive s range with
      | none =>
          rw [executeGroups_cons_none ht] at hrun
          exact ih hc hrun hquiet hsettled
      | some t =>
          obtain ⟨report, c₁, reports', hgroup, hrest, rfl⟩ := (executeGroups_cons_ok ht).1 hrun
          have hcalm : t = .unhibernate ∨ t = .delete := by
            have haction := hquiet report List.mem_cons_self
            rw [executeGroup_action hc hgroup] at haction
            cases t with
            | hibernate => exact absurd rfl haction.1
            | scale => exact absurd rfl haction.2
            | unhibernate => exact .inl rfl
            | delete => exact .inr rfl
          obtain ⟨hpatches, hsettled₁⟩ :=
            executeGroup_stays_settled hc hgroup hcalm hm hsettled
          obtain ⟨hpatches', hsettled'⟩ := ih (executeGroup_keyed hc hgroup) hrest
            (fun r hr => hquiet r (List.mem_cons_of_mem _ hr)) hsettled₁
          exact ⟨hpatches.trans hpatches', hsettled'⟩

/-- What is not there stays away. -/
theorem executeGroups_absent {good : ReceivedPatch → Prop} (hc : c.Keyed)
    (hrun : executeGroups now s isActive range hist groups c = .ok (reports, c'))
    (hk : c.object? k = none) : PatchesOnly k good c c' ∧ c'.object? k = none := by
  induction groups generalizing c reports with
  | nil =>
      cases hrun
      exact ⟨.of_eq rfl, hk⟩
  | cons group groups ih =>
      obtain ⟨action, rules⟩ := group
      cases ht : Transition.resolve action isActive s range with
      | none =>
          rw [executeGroups_cons_none ht] at hrun
          exact ih hc hrun hk
      | some t =>
          obtain ⟨report, c₁, reports', hgroup, hrest, rfl⟩ := (executeGroups_cons_ok ht).1 hrun
          obtain ⟨hpatches, hk₁⟩ : PatchesOnly k good c c₁ ∧ c₁.object? k = none :=
            executeGroup_absent hc hgroup hk
          obtain ⟨hpatches', hk'⟩ := ih (executeGroup_keyed hc hgroup) hrest hk₁
          exact ⟨hpatches.trans hpatches', hk'⟩

end

end Slumber
