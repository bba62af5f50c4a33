import Mathlib.Data.List.Forall2
import Slumber.Proofs.Cluster.Keyed
import Slumber.Transition.Autoscaler

/-!
# Clusters that differ in what transitions change

Two clusters are *alike* when they serve and refuse to list the same, and hold the same keys, in the
same order, with manifests that differ at most in the numbers of replicas, the annotations and the
containers. Listings of alike clusters correspond one to one, so the same autoscaler stands in for
an object in both.

* `Cluster.Alike` — the relation, and what keeps it;
* `Cluster.Alike.select` — listings correspond;
* `Cluster.standIn` — the object to scale in the place of another;
* `Cluster.Alike.standIn` — it is the same one in alike clusters.
-/

namespace Slumber

open Manifest

namespace FiniteMap

variable {κ α : Type} [DecidableEq κ] {R : α → α → Prop}

/-- Setting a value in its place relates the entries before to those afterwards. -/
theorem insert_forall₂ [LT κ] [DecidableLT κ] [Std.Asymm (fun a b : κ => a < b)]
    {m : FiniteMap κ α} (hm : m.Sorted) {x : κ} {v w : α} (h : m.find? x = some w)
    (hrefl : ∀ a, R a a) (hr : R w v) :
    List.Forall₂ (fun a b => b.1 = a.1 ∧ R a.2 b.2) m (m.insert x v) := by
  induction m with
  | nil => cases h
  | cons p m ih =>
      obtain ⟨k, u⟩ := p
      obtain ⟨hhead, htail⟩ := List.pairwise_cons.1 hm
      have hsame : List.Forall₂ (fun a b : κ × α => b.1 = a.1 ∧ R a.2 b.2) m m :=
        List.forall₂_same.2 fun a _ => ⟨rfl, hrefl a.2⟩
      simp only [find?] at h
      simp only [insert]
      by_cases hk : k = x
      · rw [if_pos hk] at h
        cases h
        rw [if_pos hk]
        exact .cons ⟨hk.symm, hr⟩ hsame
      · rw [if_neg hk] at h
        have hlt : k < x := hhead _ (mem_of_find? h)
        have hnot : ¬ x < k :=
          fun hx => Std.Asymm.asymm (r := fun a b : κ => a < b) k x hlt hx
        rw [if_neg hk, if_neg hnot]
        exact .cons ⟨rfl, hrefl u⟩ (ih htail h)

/-- Related entries give related values. -/
theorem find?_of_forall₂ {m m' : FiniteMap κ α}
    (h : List.Forall₂ (fun a b => b.1 = a.1 ∧ R a.2 b.2) m m') {x : κ} {v : α}
    (hv : m.find? x = some v) : ∃ v', m'.find? x = some v' ∧ R v v' := by
  induction h with
  | nil => cases hv
  | @cons a b l l' hab _ ih =>
      obtain ⟨hkey, hr⟩ := hab
      simp only [find?] at hv ⊢
      rw [hkey]
      split at hv
      · cases hv
        rename_i hk
        exact ⟨b.2, by rw [if_pos hk], hr⟩
      · rename_i hk
        rw [if_neg hk]
        exact ih hv

omit [DecidableEq κ] in
theorem map_fst_of_forall₂ {m m' : FiniteMap κ α}
    (h : List.Forall₂ (fun a b => b.1 = a.1 ∧ R a.2 b.2) m m') : m'.map (·.1) = m.map (·.1) := by
  induction h with
  | nil => rfl
  | cons hab _ ih => rw [List.map_cons, List.map_cons, ih, hab.1]

omit [DecidableEq κ] in
/-- Entries that are related step by step are related, if the values are. -/
theorem forall₂_trans (htrans : ∀ {u v w : α}, R u v → R v w → R u w) {m m' m'' : FiniteMap κ α}
    (h : List.Forall₂ (fun a b => b.1 = a.1 ∧ R a.2 b.2) m m')
    (h' : List.Forall₂ (fun a b => b.1 = a.1 ∧ R a.2 b.2) m' m'') :
    List.Forall₂ (fun a b => b.1 = a.1 ∧ R a.2 b.2) m m'' := by
  induction h generalizing m'' with
  | nil => cases h'; exact .nil
  | cons hab _ ih =>
      cases h' with
      | cons hbc htail => exact .cons ⟨hbc.1.trans hab.1, htrans hab.2 hbc.2⟩ (ih htail)

end FiniteMap

/-- The first elements that pass corresponding tests correspond. -/
theorem find?_of_forall₂ {α β : Type} {R : α → β → Prop} {xs : List α} {ys : List β}
    {p : α → Bool} {q : β → Bool} (h : List.Forall₂ R xs ys)
    (hpq : ∀ a b, R a b → q b = p a) :
    (xs.find? p = none ∧ ys.find? q = none)
      ∨ ∃ a b, xs.find? p = some a ∧ ys.find? q = some b ∧ R a b := by
  induction h with
  | nil => exact .inl ⟨rfl, rfl⟩
  | @cons a b l l' hab _ ih =>
      simp only [List.find?_cons]
      rw [hpq a b hab]
      cases p a with
      | true => exact .inr ⟨a, b, rfl, rfl, hab⟩
      | false => exact ih

namespace Cluster

variable {c c' c'' : Cluster} {k : ObjectKey} {m : Manifest}

/-! ### The relation -/

/-- The clusters serve and refuse to list the same, and hold manifests under the same keys that
differ in what transitions change only. -/
structure Alike (c c' : Cluster) : Prop where
  types_eq : c'.types = c.types
  refusedLists_eq : c'.refusedLists = c.refusedLists
  objects : List.Forall₂ (fun a b => b.1 = a.1 ∧ SameOffScaling a.2 b.2) c.objects c'.objects

namespace Alike

theorem refl (c : Cluster) : Alike c c :=
  ⟨rfl, rfl, List.forall₂_same.2 fun a _ => ⟨rfl, .refl a.2⟩⟩

theorem symm (h : Alike c c') : Alike c' c :=
  ⟨h.types_eq.symm, h.refusedLists_eq.symm,
    List.Forall₂.flip (h.objects.imp fun _ _ hab => ⟨hab.1.symm, hab.2.symm⟩)⟩

theorem trans (h : Alike c c') (h' : Alike c' c'') : Alike c c'' :=
  ⟨h'.types_eq.trans h.types_eq, h'.refusedLists_eq.trans h.refusedLists_eq,
    FiniteMap.forall₂_trans (R := SameOffScaling) SameOffScaling.trans h.objects h'.objects⟩

/-- What is held in one is held in the other, with the same manifest off scaling. -/
theorem object? (h : Alike c c') (hm : c.object? k = some m) :
    ∃ m', c'.object? k = some m' ∧ SameOffScaling m m' :=
  FiniteMap.find?_of_forall₂ h.objects hm

theorem findType?_eq (h : Alike c c') (name : String) : c'.findType? name = c.findType? name := by
  unfold findType?
  rw [h.types_eq]

theorem keyOf_eq (h : Alike c c') (ns : String) (kind : ObjectKind) (name : String) :
    c'.keyOf ns kind name = c.keyOf ns kind name := by
  unfold keyOf
  rw [h.types_eq]

theorem sorted (h : Alike c c') (hc : c.objects.Sorted) : c'.objects.Sorted := by
  rw [FiniteMap.sorted_iff_keys, FiniteMap.map_fst_of_forall₂ h.objects]
  exact FiniteMap.sorted_iff_keys.1 hc

theorem filed (h : Alike c c') (hc : c.Filed) : c'.Filed := by
  refine ⟨h.sorted hc.sorted, fun {k m'} hm' => ?_⟩
  obtain ⟨m, hm, hsame⟩ := h.symm.object? hm'
  rw [hsame.symm.key_eq, hc.key_eq hm]

theorem addressable (h : Alike c c') (hc : c.Addressable) : c'.Addressable := by
  refine hc.of_sameOffScaling h.types_eq (h.sorted hc.sorted) fun k m' hm' => ?_
  obtain ⟨m, hm, hsame⟩ := h.symm.object? hm'
  exact ⟨m, hm, hsame.symm⟩

theorem keyed (h : Alike c c') (hc : c.Keyed) : c'.Keyed := by
  refine hc.of_sameOffScaling h.types_eq (h.sorted hc.sorted) fun k m' hm' => ?_
  obtain ⟨m, hm, hsame⟩ := h.symm.object? hm'
  exact ⟨m, hm, hsame.symm⟩

theorem receiving (c : Cluster) (k : ObjectKey) (patch : Json) (flavour : PatchKind) :
    Alike c (c.receiving k patch flavour) :=
  ⟨rfl, rfl, (refl c).objects⟩

/-- Changing what transitions change of a held object gives a cluster that is alike. -/
theorem holding {m' : Manifest} (hc : c.objects.Sorted) (hm : c.object? k = some m)
    (hsame : SameOffScaling m m') : Alike c (c.holding k m') :=
  ⟨rfl, rfl, FiniteMap.insert_forall₂ hc hm .refl hsame⟩

end Alike

/-! ### Listings -/

/-- Whether an object is meant by a listing of a type in a namespace, or in all, with a label
selector. -/
def isListed (namespaceName : Option String) (type : ResourceType) (labels : Option String)
    (key : ObjectKey) (m : Manifest) : Bool :=
  key.group == type.kind.group && key.kind == type.kind.kind
    && (!type.namespaced || namespaceName.all (· == key.namespaceName))
    && labels.all (LabelSelector.selects · m.labels)

theorem select_eq (c : Cluster) (ns : Option String) (type : ResourceType)
    (labels : Option String) :
    c.select ns type labels
      = (c.objects.filter fun p => isListed ns type labels p.1 p.2).map (·.2) := rfl

theorem mem_select_iff (hc : c.Filed) {ns : Option String} {type : ResourceType}
    {labels : Option String} :
    m ∈ c.select ns type labels
      ↔ c.object? m.key = some m ∧ isListed ns type labels m.key m = true := by
  rw [select_eq, List.mem_map]
  constructor
  · rintro ⟨⟨k, n⟩, hmem, rfl⟩
    obtain ⟨hobj, hlisted⟩ := List.mem_filter.1 hmem
    have hfound := hc.mem_iff.1 hobj
    have hkey := hc.key_eq hfound
    subst hkey
    exact ⟨hfound, hlisted⟩
  · rintro ⟨hfound, hlisted⟩
    exact ⟨(m.key, m), List.mem_filter.2 ⟨hc.mem_iff.2 hfound, hlisted⟩, rfl⟩

/-- What the key of an object in a listing says. -/
theorem key_of_isListed {ns : Option String} {type : ResourceType} {labels : Option String}
    {k : ObjectKey} {m : Manifest} (h : isListed ns type labels k m = true) :
    k.group = type.kind.group ∧ k.kind = type.kind.kind
      ∧ (type.namespaced = true → ∀ n, ns = some n → n = k.namespaceName) := by
  unfold isListed at h
  simp only [Bool.and_eq_true, beq_iff_eq, Bool.or_eq_true, Bool.not_eq_true'] at h
  obtain ⟨⟨⟨hgroup, hkind⟩, hns⟩, -⟩ := h
  refine ⟨hgroup, hkind, fun hnamespaced n hn => ?_⟩
  rcases hns with hfalse | hns
  · rw [hnamespaced] at hfalse
    cases hfalse
  · subst hn
    simpa using hns

theorem isListed_eq_of_sameOffScaling {m' : Manifest} (h : SameOffScaling m m')
    (ns : Option String) (type : ResourceType) (labels : Option String) (k : ObjectKey) :
    isListed ns type labels k m' = isListed ns type labels k m := by
  unfold isListed
  rw [h.labels_eq]

/-- Listings of alike clusters correspond one to one. -/
theorem Alike.select (h : Alike c c') (ns : Option String) (type : ResourceType)
    (labels : Option String) :
    List.Forall₂ SameOffScaling (c.select ns type labels) (c'.select ns type labels) := by
  rw [select_eq, select_eq, List.forall₂_map_left_iff, List.forall₂_map_right_iff]
  refine List.Forall₂.imp (fun a b hab => hab.2) (List.rel_filter ?_ h.objects)
  rintro ⟨k, m⟩ ⟨k', m'⟩ ⟨hkey, hsame⟩
  dsimp only at hkey hsame ⊢
  rw [hkey, isListed_eq_of_sameOffScaling hsame]

/-! ### Autoscalers -/

/-- The autoscalers of a namespace, as far as they can be listed. -/
def autoscalersIn (c : Cluster) (namespaceName : String) : List Manifest :=
  match c.findType? "hpa" with
  | none => []
  | some t => (c.list (some namespaceName) t none).toOption.getD []

/-- The object to scale in the place of another: the first autoscaler that governs it, or itself. -/
def standIn (c : Cluster) (target : Manifest) : Manifest :=
  if target.isAutoscaler ∨ target.namespaceName = "" then target
  else ((c.autoscalersIn target.namespaceName).find? (governs · target)).getD target

theorem mem_autoscalersIn (hc : c.Filed) {ns : String} (h : m ∈ c.autoscalersIn ns) :
    ∃ t, c.findType? "hpa" = some t ∧ m ∈ c.select (some ns) t none
      ∧ c.object? m.key = some m := by
  unfold autoscalersIn at h
  cases ht : c.findType? "hpa" with
  | none => simp [ht] at h
  | some t =>
      simp only [ht, Cluster.list] at h
      split at h
      · simp [Except.toOption] at h
      · have hmem : m ∈ c.select (some ns) t none := by simpa [Except.toOption] using h
        exact ⟨t, rfl, hmem, ((mem_select_iff hc).1 hmem).1⟩

theorem Alike.autoscalersIn (h : Alike c c') (ns : String) :
    List.Forall₂ SameOffScaling (c.autoscalersIn ns) (c'.autoscalersIn ns) := by
  unfold Cluster.autoscalersIn
  rw [h.findType?_eq]
  cases c.findType? "hpa" with
  | none => exact .nil
  | some t =>
      simp only [Cluster.list, h.refusedLists_eq]
      split
      · exact .nil
      · exact h.select _ _ _

theorem governs_eq_of_sameOffScaling {a a' b b' : Manifest} (ha : SameOffScaling a a')
    (hb : SameOffScaling b b') : governs a' b' = governs a b := by
  unfold governs
  rw [ha.scaleTarget?_eq, ha.namespaceName_eq, hb.namespaceName_eq, hb.objectKind_eq, hb.kind_eq,
    hb.name_eq]

/-- What stands in for a held object is held. -/
theorem object?_standIn (hc : c.Keyed) (hm : c.object? m.key = some m) :
    c.object? (c.standIn m).key = some (c.standIn m) := by
  unfold standIn
  split
  · exact hm
  · cases hfind : (c.autoscalersIn m.namespaceName).find? (governs · m) with
    | none => exact hm
    | some a =>
        obtain ⟨-, -, -, ha⟩ := mem_autoscalersIn hc.filed (List.mem_of_find?_eq_some hfind)
        exact ha

/-- The stand-in of an object among given autoscalers. -/
theorem standIn_of_forall₂ {found : List Manifest} {target target' : Manifest}
    (h : List.Forall₂ SameOffScaling (c.autoscalersIn target.namespaceName) found)
    (ht : SameOffScaling target target')
    (hns : ¬ (target.isAutoscaler = true ∨ target.namespaceName = "")) :
    SameOffScaling (c.standIn target) ((found.find? (governs · target')).getD target') := by
  unfold standIn
  rw [if_neg hns]
  rcases find?_of_forall₂ (p := (governs · target)) (q := (governs · target')) h
      fun a b hab => governs_eq_of_sameOffScaling hab ht with
    ⟨hone, htwo⟩ | ⟨a, b, hone, htwo, hab⟩
  · rw [hone, htwo]
    exact ht
  · rw [hone, htwo]
    exact hab

/-- The same object stands in for another in alike clusters. -/
theorem Alike.standIn (h : Alike c c') {target target' : Manifest}
    (ht : SameOffScaling target target') :
    SameOffScaling (c.standIn target) (c'.standIn target') := by
  by_cases hns : target.isAutoscaler = true ∨ target.namespaceName = ""
  · have hns' : target'.isAutoscaler = true ∨ target'.namespaceName = "" := by
      rw [ht.isAutoscaler_eq, ht.namespaceName_eq]
      exact hns
    unfold Cluster.standIn
    rw [if_pos hns, if_pos hns']
    exact ht
  · have hns' : ¬ (target'.isAutoscaler = true ∨ target'.namespaceName = "") := by
      rw [ht.isAutoscaler_eq, ht.namespaceName_eq]
      exact hns
    have hlists := h.autoscalersIn target.namespaceName
    have hthere := standIn_of_forall₂ hlists ht hns
    have hshape : c'.standIn target'
        = ((c'.autoscalersIn target'.namespaceName).find? (governs · target')).getD target' := by
      rw [Cluster.standIn, if_neg hns']
    rw [hshape, ht.namespaceName_eq]
    exact hthere

end Cluster

end Slumber
