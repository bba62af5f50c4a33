import Slumber.Cluster.Store
import Slumber.Proofs.Json.Pointers
import Slumber.Proofs.SortedMap
import Slumber.Proofs.Transition.Counts

/-!
# Clusters with objects under their own keys

A cluster is *keyed* when every object is held under the key that its manifest gives, in the order
of the keys, objects of cluster-wide kinds have no namespace, and no two keys have the same text. In
such a cluster the name by which a client addresses an object leads to that object, and changing
counts or deleting objects keeps the cluster keyed.

* `Cluster.Filed` — its first part: every object is held under its own key;
* `Cluster.Addressable` — its first two parts, by which an object is addressed by its own key;
* `Cluster.Keyed` — the invariant, which can be checked by `Cluster.keyed_iff`;
* `Cluster.TouchesOnly` — what may have happened when only some keys were touched;
* `Cluster.patch_cases`, `Cluster.delete_eq` — what patching and deleting a held object do.
-/

namespace Slumber

/-! ### The order of keys -/

instance stringAsymm : Std.Asymm (fun a b : String => a < b) :=
  ⟨fun _ _ h => String.lt_asymm h⟩

instance objectKeyAsymm : Std.Asymm (fun a b : ObjectKey => a < b) :=
  ⟨fun _ _ h h' => List.lt_asymm h h'⟩

instance objectKeyTrans : IsTrans ObjectKey (fun a b => a < b) :=
  ⟨fun _ _ _ h h' => List.lt_trans h h'⟩

/-- Two keys with the same parts are the same. -/
instance objectKeyTrichotomous : Std.Trichotomous (fun a b : ObjectKey => a < b) where
  trichotomous := by
    rintro ⟨ns, group, version, kind, name⟩ ⟨ns', group', version', kind', name'⟩ h h'
    have hparts := Std.Trichotomous.trichotomous (r := fun a b : List String => a < b) _ _ h h'
    simp only [ObjectKey.parts, List.cons.injEq] at hparts
    obtain ⟨rfl, rfl, rfl, rfl, rfl, -⟩ := hparts
    rfl

namespace Cluster

variable {c c' c'' : Cluster} {k : ObjectKey} {m : Manifest}

/-! ### The invariant -/

/-- Whether objects of a kind live in namespaces. Kinds that are not served do. -/
def isNamespaced (c : Cluster) (kind : ObjectKind) : Bool :=
  ((c.types.find? fun t => t.kind.group = kind.group ∧ t.kind.kind = kind.kind).map
    (·.namespaced)).getD true

/-- Every object is held under its own key, in the order of the keys. -/
structure Filed (c : Cluster) : Prop where
  sorted : c.objects.Sorted
  key_eq : ∀ {k m}, c.object? k = some m → m.key = k

theorem Filed.mem_iff (h : c.Filed) : (k, m) ∈ c.objects ↔ c.object? k = some m :=
  FiniteMap.mem_iff_find? h.sorted

/-- Every object is held under its own key, and cluster-wide ones have no namespace. -/
structure Addressable (c : Cluster) : Prop extends c.Filed where
  clusterWide : ∀ {k m}, c.object? k = some m → c.isNamespaced m.objectKind = false →
    m.namespaceName = ""

/-- Every object is held under its own key, cluster-wide ones have no namespace, and no two keys
have the same text. -/
structure Keyed (c : Cluster) : Prop where
  sorted : c.objects.Sorted
  key_eq : ∀ {k m}, c.object? k = some m → m.key = k
  clusterWide : ∀ {k m}, c.object? k = some m → c.isNamespaced m.objectKind = false →
    m.namespaceName = ""
  text_injective : ∀ {k k' m m'}, c.object? k = some m → c.object? k' = some m' →
    k.text = k'.text → k = k'

/-- The invariant in a form that can be checked. -/
theorem keyed_iff : c.Keyed ↔ c.objects.Sorted
    ∧ (∀ p ∈ c.objects, p.2.key = p.1
        ∧ (c.isNamespaced p.2.objectKind = false → p.2.namespaceName = ""))
    ∧ ∀ p ∈ c.objects, ∀ q ∈ c.objects, p.1.text = q.1.text → p.1 = q.1 := by
  constructor
  · intro h
    have hfound : ∀ p ∈ c.objects, c.object? p.1 = some p.2 :=
      fun p hp => (FiniteMap.mem_iff_find? h.sorted).1 hp
    refine ⟨h.sorted, fun p hp => ⟨h.key_eq (hfound p hp), h.clusterWide (hfound p hp)⟩, ?_⟩
    intro p hp q hq htext
    exact h.text_injective (hfound p hp) (hfound q hq) htext
  · rintro ⟨hsorted, hobjects, htexts⟩
    refine ⟨hsorted, fun hm => (hobjects _ (FiniteMap.mem_of_find? hm)).1,
      fun hm => (hobjects _ (FiniteMap.mem_of_find? hm)).2, ?_⟩
    intro k k' m m' hm hm' htext
    exact htexts _ (FiniteMap.mem_of_find? hm) _ (FiniteMap.mem_of_find? hm') htext

instance : Decidable c.objects.Sorted :=
  inferInstanceAs (Decidable (List.Pairwise _ _))

instance : Decidable c.Keyed :=
  decidable_of_iff _ keyed_iff.symm

/-- An object is addressed by its own key. -/
theorem Addressable.keyOf_eq (h : c.Addressable) (hm : c.object? k = some m) :
    c.keyOf m.namespaceName m.objectKind m.name = k := by
  have hkey := h.key_eq hm
  have hshape : c.keyOf m.namespaceName m.objectKind m.name
      = ⟨if c.isNamespaced m.objectKind then m.namespaceName else "", m.objectKind.group,
          m.objectKind.version, m.objectKind.kind, m.name⟩ := rfl
  rw [hshape, ← hkey]
  cases hns : c.isNamespaced m.objectKind with
  | true => rfl
  | false =>
      have hempty := h.clusterWide hm hns
      simp only [Manifest.key, hempty]
      rfl

theorem Keyed.filed (h : c.Keyed) : c.Filed :=
  ⟨h.sorted, h.key_eq⟩

theorem Keyed.addressable (h : c.Keyed) : c.Addressable :=
  ⟨h.filed, h.clusterWide⟩

theorem Keyed.keyOf_eq (h : c.Keyed) (hm : c.object? k = some m) :
    c.keyOf m.namespaceName m.objectKind m.name = k :=
  h.addressable.keyOf_eq hm

theorem Keyed.mem_iff (h : c.Keyed) : (k, m) ∈ c.objects ↔ c.object? k = some m :=
  h.filed.mem_iff

/-- Objects are addressed by their own keys in a cluster that holds, in order, manifests that differ
in counts only from those that another with the same types holds under the same keys, if they are in
that one. -/
theorem Addressable.of_sameOffScaling (h : c.Addressable) (htypes : c'.types = c.types)
    (hsorted : c'.objects.Sorted)
    (hobj : ∀ k m', c'.object? k = some m' →
      ∃ m, c.object? k = some m ∧ Manifest.SameOffScaling m m') : c'.Addressable where
  sorted := hsorted
  key_eq := by
    intro k m' hm'
    obtain ⟨m, hm, hsame⟩ := hobj k m' hm'
    rw [hsame.key_eq, h.key_eq hm]
  clusterWide := by
    intro k m' hm' hns
    obtain ⟨m, hm, hsame⟩ := hobj k m' hm'
    have hkind : c'.isNamespaced m'.objectKind = c.isNamespaced m.objectKind := by
      unfold isNamespaced
      rw [htypes, hsame.objectKind_eq]
    rw [hsame.namespaceName_eq]
    exact h.clusterWide hm (hkind ▸ hns)

/-- Such a cluster is keyed if the other is. -/
theorem Keyed.of_sameOffScaling (h : c.Keyed) (htypes : c'.types = c.types)
    (hsorted : c'.objects.Sorted)
    (hobj : ∀ k m', c'.object? k = some m' →
      ∃ m, c.object? k = some m ∧ Manifest.SameOffScaling m m') : c'.Keyed := by
  have haddressable := h.addressable.of_sameOffScaling htypes hsorted hobj
  refine ⟨haddressable.sorted, haddressable.key_eq, haddressable.clusterWide, ?_⟩
  intro k k' m m' hm hm' htext
  obtain ⟨n, hn, -⟩ := hobj k m hm
  obtain ⟨n', hn', -⟩ := hobj k' m' hm'
  exact h.text_injective hn hn' htext

/-- What a cluster refuses has no part in whether it is keyed. -/
theorem Keyed.of_objects_eq (h : c.Keyed) (htypes : c'.types = c.types)
    (hobjects : c'.objects = c.objects) : c'.Keyed := by
  refine h.of_sameOffScaling htypes (hobjects ▸ h.sorted) fun k m hm => ⟨m, ?_, .refl m⟩
  unfold object? at hm ⊢
  rw [← hobjects]
  exact hm

/-! ### Touching some keys only -/

/-- From `c` to `c'` only objects under the given keys were touched: changed, patched or deleted.
What the cluster serves and refuses is the same. -/
structure TouchesOnly (touched : ObjectKey → Prop) (c c' : Cluster) : Prop where
  types_eq : c'.types = c.types
  refusedPatches_eq : c'.refusedPatches = c.refusedPatches
  refusedLists_eq : c'.refusedLists = c.refusedLists
  object?_eq : ∀ k, ¬ touched k → c'.object? k = c.object? k
  patches : ∃ new, c'.patches = c.patches ++ new ∧ ∀ p ∈ new, touched p.key
  deletions : ∃ new, c'.deletions = c.deletions ++ new ∧ ∀ k ∈ new, touched k

namespace TouchesOnly

variable {touched touched' : ObjectKey → Prop}

theorem refl (touched : ObjectKey → Prop) (c : Cluster) : TouchesOnly touched c c :=
  ⟨rfl, rfl, rfl, fun _ _ => rfl, ⟨[], by simp⟩, ⟨[], by simp⟩⟩

theorem trans (h : TouchesOnly touched c c') (h' : TouchesOnly touched c' c'') :
    TouchesOnly touched c c'' where
  types_eq := h'.types_eq.trans h.types_eq
  refusedPatches_eq := h'.refusedPatches_eq.trans h.refusedPatches_eq
  refusedLists_eq := h'.refusedLists_eq.trans h.refusedLists_eq
  object?_eq := fun k hk => (h'.object?_eq k hk).trans (h.object?_eq k hk)
  patches := by
    obtain ⟨new, hnew, ht⟩ := h.patches
    obtain ⟨new', hnew', ht'⟩ := h'.patches
    refine ⟨new ++ new', by rw [hnew', hnew, List.append_assoc], fun p hp => ?_⟩
    rcases List.mem_append.1 hp with hp | hp
    · exact ht p hp
    · exact ht' p hp
  deletions := by
    obtain ⟨new, hnew, ht⟩ := h.deletions
    obtain ⟨new', hnew', ht'⟩ := h'.deletions
    refine ⟨new ++ new', by rw [hnew', hnew, List.append_assoc], fun p hp => ?_⟩
    rcases List.mem_append.1 hp with hp | hp
    · exact ht p hp
    · exact ht' p hp

theorem mono (h : TouchesOnly touched c c') (hsub : ∀ k, touched k → touched' k) :
    TouchesOnly touched' c c' where
  types_eq := h.types_eq
  refusedPatches_eq := h.refusedPatches_eq
  refusedLists_eq := h.refusedLists_eq
  object?_eq := fun k hk => h.object?_eq k fun ht => hk (hsub k ht)
  patches := by
    obtain ⟨new, hnew, ht⟩ := h.patches
    exact ⟨new, hnew, fun p hp => hsub _ (ht p hp)⟩
  deletions := by
    obtain ⟨new, hnew, ht⟩ := h.deletions
    exact ⟨new, hnew, fun k hk => hsub k (ht k hk)⟩

theorem keyOf_eq (h : TouchesOnly touched c c') (ns : String) (kind : ObjectKind) (name : String) :
    c'.keyOf ns kind name = c.keyOf ns kind name := by
  unfold keyOf
  rw [h.types_eq]

theorem findType?_eq (h : TouchesOnly touched c c') (name : String) :
    c'.findType? name = c.findType? name := by
  unfold findType?
  rw [h.types_eq]

end TouchesOnly

/-! ### Patching and deleting -/

/-- The cluster that has received one more patch. -/
def receiving (c : Cluster) (k : ObjectKey) (patch : Json) (flavour : PatchKind) : Cluster :=
  { c with patches := c.patches ++ [(⟨k, patch, flavour⟩ : ReceivedPatch)] }

/-- The cluster with another manifest under a key. -/
def holding (c : Cluster) (k : ObjectKey) (m : Manifest) : Cluster :=
  { c with objects := c.objects.insert k m }

theorem receiving_touchesOnly (c : Cluster) (k : ObjectKey) (patch : Json) (flavour : PatchKind) :
    TouchesOnly (· = k) c (c.receiving k patch flavour) :=
  ⟨rfl, rfl, rfl, fun _ _ => rfl, ⟨[⟨k, patch, flavour⟩], rfl, by simp⟩, ⟨[], by simp [receiving]⟩⟩

theorem holding_touchesOnly (c : Cluster) (k : ObjectKey) (m : Manifest) :
    TouchesOnly (· = k) c (c.holding k m) :=
  ⟨rfl, rfl, rfl, fun _ hk => FiniteMap.find?_insert_of_ne _ _ (Ne.symm hk),
    ⟨[], by simp [holding]⟩, ⟨[], by simp [holding]⟩⟩

@[simp] theorem object?_holding_self (c : Cluster) (k : ObjectKey) (m : Manifest) :
    (c.holding k m).object? k = some m :=
  FiniteMap.find?_insert_self _ _ _

@[simp] theorem object?_receiving (c : Cluster) (k k' : ObjectKey) (patch : Json)
    (flavour : PatchKind) : (c.receiving k patch flavour).object? k' = c.object? k' := rfl

theorem patch_eq (c : Cluster) (k : ObjectKey) (patch : Json) (flavour : PatchKind) :
    c.patch k patch flavour
      = match c.patched k patch flavour with
        | .ok m => (.ok m, (c.receiving k patch flavour).holding k m)
        | .error e => (.error e, c.receiving k patch flavour) := rfl

/-- A patch touches at most the object it is meant for. -/
theorem patch_touchesOnly (c : Cluster) (k : ObjectKey) (patch : Json) (flavour : PatchKind) :
    TouchesOnly (· = k) c (c.patch k patch flavour).2 := by
  rw [patch_eq]
  cases c.patched k patch flavour with
  | ok m => exact (receiving_touchesOnly c k patch flavour).trans (holding_touchesOnly _ k m)
  | error e => exact receiving_touchesOnly c k patch flavour

/-- Whether patches of an object are accepted. -/
def Accepts (c : Cluster) (k : ObjectKey) : Prop :=
  c.refusedPatches.find? k.text = none

/-- A patch that is accepted and applies changes the object. -/
theorem patch_of_apply {p : Patch} {d : Json} (hm : c.object? k = some m) (hfree : c.Accepts k)
    (hd : p.apply m.document = .ok d) :
    c.patch k p.toJson .json = (.ok ⟨d⟩, (c.receiving k p.toJson .json).holding k ⟨d⟩) := by
  have hpatched : c.patched k p.toJson .json = .ok ⟨d⟩ := by
    have hfree' : c.refusedPatches.find? k.text = none := hfree
    simp [patched, hfree', hm, applyPatch, Patch.ofJson?_toJson, hd, Except.map]
  rw [patch_eq, hpatched]

/-- What a list of operations does to a held object: it goes through and changes the object, or it
fails, is refused or does not apply, and leaves the object as it was. -/
theorem patch_cases (p : Patch) (hm : c.object? k = some m) :
    (∃ d, c.Accepts k ∧ p.apply m.document = .ok d
      ∧ c.patch k p.toJson .json = (.ok ⟨d⟩, (c.receiving k p.toJson .json).holding k ⟨d⟩))
    ∨ ∃ e, (¬ c.Accepts k ∨ ∀ d, p.apply m.document ≠ .ok d)
      ∧ c.patch k p.toJson .json = (.error e, c.receiving k p.toJson .json) := by
  by_cases hfree : c.Accepts k
  · cases hd : p.apply m.document with
    | ok d => exact .inl ⟨d, hfree, rfl, patch_of_apply hm hfree hd⟩
    | error fault =>
        have hfree' : c.refusedPatches.find? k.text = none := hfree
        have hpatched : c.patched k p.toJson .json = .error (.invalidPatch fault.message) := by
          simp [patched, hfree', hm, applyPatch, Patch.ofJson?_toJson, hd, Except.map]
        exact .inr ⟨_, .inr (by simp), by rw [patch_eq, hpatched]⟩
  · obtain ⟨reason, hreason⟩ := Option.ne_none_iff_exists'.1 hfree
    have hpatched : c.patched k p.toJson .json = .error (.invalidPatch reason) := by
      simp [patched, hreason]
    exact .inr ⟨_, .inl hfree, by rw [patch_eq, hpatched]⟩

/-- The cluster without an object. -/
def without (c : Cluster) (k : ObjectKey) : Cluster :=
  { c with objects := c.objects.erase k, deletions := c.deletions ++ [k] }

/-- A held object is deleted. -/
theorem delete_eq (hm : c.object? k = some m) : c.delete k = (.ok m, c.without k) := by
  simp [delete, hm, without]

@[simp] theorem object?_without_self (c : Cluster) (k : ObjectKey) :
    (c.without k).object? k = none :=
  FiniteMap.find?_erase_self _ _

theorem without_touchesOnly (c : Cluster) (k : ObjectKey) :
    TouchesOnly (· = k) c (c.without k) :=
  ⟨rfl, rfl, rfl, fun _ hk => FiniteMap.find?_erase_of_ne _ (Ne.symm hk),
    ⟨[], by simp [without]⟩, ⟨[k], rfl, by simp⟩⟩

/-- Deleting an object touches at most that object. -/
theorem delete_touchesOnly (c : Cluster) (k : ObjectKey) :
    TouchesOnly (· = k) c (c.delete k).2 := by
  cases hm : c.object? k with
  | none => simpa [delete, hm] using TouchesOnly.refl _ c
  | some m => simpa [delete_eq hm] using without_touchesOnly c k

/-- Deleting an object keeps the cluster keyed. -/
theorem Keyed.without (h : c.Keyed) (k : ObjectKey) : (c.without k).Keyed := by
  refine h.of_sameOffScaling rfl (h.sorted.erase k) fun k' n hn => ?_
  by_cases hk : k' = k
  · subst hk
    rw [object?_without_self] at hn
    cases hn
  · rw [(without_touchesOnly c k).object?_eq k' hk] at hn
    exact ⟨n, hn, .refl n⟩

end Cluster

end Slumber
