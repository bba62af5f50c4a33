import Slumber.Proofs.Selection

/-!
# Clusters that a selector cannot tell apart

A selector looks at keys and labels of objects, at whether its expressions match them, at the types
that a cluster serves and at the listings that it refuses. Of two clusters that are the same in all
of this it finds objects under the same keys, or an overflow ends the selection on both.

* `Manifest.LooksAlike`, `Cluster.LooksAlike` — what is the same to a selector;
* `LooksAlike.considers`, `LooksAlike.stopsAt` — so the selector tests the same objects;
* `LooksAlike.select_keys_eq` — and finds the same keys.
-/

namespace Slumber

open Cluster Selection Expression Text

/-- The manifests are the same to a selector. -/
structure Manifest.LooksAlike (now : Instant) (s : Selector) (m m' : Manifest) : Prop where
  key_eq : m'.key = m.key
  labels_eq : m'.labels = m.labels
  matchesAt_eq : ∀ e ∈ s.objects.fields ++ s.namespaces.fields,
    matchesAt e m'.document now = matchesAt e m.document now

/-- The clusters are the same to a selector: they serve and refuse to list the same, and hold
objects that are the same to it under the same keys. -/
structure Cluster.LooksAlike (now : Instant) (s : Selector) (c c' : Cluster) : Prop where
  types_eq : c'.types = c.types
  refusedLists_eq : c'.refusedLists = c.refusedLists
  there : ∀ {k m}, c.object? k = some m → ∃ m', c'.object? k = some m' ∧ m.LooksAlike now s m'
  back : ∀ {k m'}, c'.object? k = some m' → ∃ m, c.object? k = some m ∧ m.LooksAlike now s m'

namespace Manifest.LooksAlike

variable {now : Instant} {s : Selector} {m m' : Manifest}

theorem symm (h : m.LooksAlike now s m') : m'.LooksAlike now s m :=
  ⟨h.key_eq.symm, h.labels_eq.symm, fun e he => (h.matchesAt_eq e he).symm⟩

theorem name_eq (h : m.LooksAlike now s m') : m'.name = m.name :=
  congrArg ObjectKey.name h.key_eq

theorem isListed_eq (h : m.LooksAlike now s m') (ns : Option String) (type : ResourceType)
    (labels : Option String) :
    isListed ns type labels m'.key m' = isListed ns type labels m.key m := by
  unfold isListed
  rw [h.key_eq, h.labels_eq]

/-- Expressions of the selector test both manifests alike. -/
theorem satisfies_eq (h : m.LooksAlike now s m') {es : List String}
    (hes : ∀ e ∈ es, e ∈ s.objects.fields ++ s.namespaces.fields) :
    satisfies now m'.document es = satisfies now m.document es := by
  induction es with
  | nil => rfl
  | cons e es ih =>
      obtain ⟨he, hes⟩ := List.forall_mem_cons.1 hes
      unfold satisfies
      rw [h.matchesAt_eq e he, ih hes]

theorem satisfies_objects (h : m.LooksAlike now s m') :
    satisfies now m'.document s.objects.fields = satisfies now m.document s.objects.fields :=
  h.satisfies_eq fun _ he => List.mem_append_left _ he

theorem satisfies_namespaces (h : m.LooksAlike now s m') :
    satisfies now m'.document s.namespaces.fields
      = satisfies now m.document s.namespaces.fields :=
  h.satisfies_eq fun _ he => List.mem_append_right _ he

end Manifest.LooksAlike

namespace Cluster.LooksAlike

variable {now : Instant} {s : Selector} {c c' : Cluster} {m : Manifest}

theorem symm (h : LooksAlike now s c c') : LooksAlike now s c' c where
  types_eq := h.types_eq.symm
  refusedLists_eq := h.refusedLists_eq.symm
  there hm := (h.back hm).imp fun _ hm => ⟨hm.1, hm.2.symm⟩
  back hm := (h.there hm).imp fun _ hm => ⟨hm.1, hm.2.symm⟩

theorem findType?_eq (h : LooksAlike now s c c') (name : String) :
    c'.findType? name = c.findType? name := by
  unfold findType?
  rw [h.types_eq]

theorem keyOf_eq (h : LooksAlike now s c c') (ns : String) (kind : ObjectKind) (name : String) :
    c'.keyOf ns kind name = c.keyOf ns kind name := by
  unfold keyOf
  rw [h.types_eq]

theorem lists_iff (h : LooksAlike now s c c') (ns : Option String) (type : ResourceType) :
    c'.Lists ns type ↔ c.Lists ns type := by
  unfold Lists
  rw [h.refusedLists_eq]

/-- An object that is tested in one cluster has its like in the other. -/
theorem candidatesIn (h : LooksAlike now s c c') (hc : c.Filed) (hc' : c'.Filed)
    {ns : Option String} {type : ResourceType} (hm : m ∈ c.candidatesIn ns type s.objects) :
    ∃ m', m' ∈ c'.candidatesIn ns type s.objects ∧ m.LooksAlike now s m' := by
  obtain ⟨hstored, hm⟩ := (mem_candidatesIn_iff hc).1 hm
  obtain ⟨m', hstored', hlike⟩ := h.there hstored
  refine ⟨m', (mem_candidatesIn_iff hc').2 ⟨by rw [hlike.key_eq, hstored'], ?_⟩, hlike⟩
  rw [h.lists_iff, hlike.isListed_eq, hlike.key_eq]
  simp only [h.keyOf_eq]
  exact hm

theorem namespaceCandidates (h : LooksAlike now s c c') (hc : c.Filed) (hc' : c'.Filed)
    (hm : m ∈ c.namespaceCandidates s.namespaces) :
    ∃ m', m' ∈ c'.namespaceCandidates s.namespaces ∧ m.LooksAlike now s m' := by
  obtain ⟨type, htype, hfree, hstored, hlisted⟩ := (mem_namespaceCandidates_iff hc).1 hm
  obtain ⟨m', hstored', hlike⟩ := h.there hstored
  refine ⟨m', (mem_namespaceCandidates_iff hc').2 ⟨type, ?_, ?_, ?_, ?_⟩, hlike⟩
  · rw [h.findType?_eq, htype]
  · exact (h.lists_iff none type).2 hfree
  · rw [hlike.key_eq, hstored']
  · rw [hlike.isListed_eq, hlisted]

theorem takesNamespace (h : LooksAlike now s c c') (hc : c.Filed) (hc' : c'.Filed) {ns : String}
    (hns : c.TakesNamespace now s.namespaces ns) : c'.TakesNamespace now s.namespaces ns := by
  unfold TakesNamespace at hns ⊢
  split at hns
  · rename_i hnamed
    rw [if_pos hnamed]
    exact hns
  · rename_i hnamed
    rw [if_neg hnamed]
    obtain ⟨m, hm, hmeets, hname⟩ := hns
    obtain ⟨m', hm', hlike⟩ := h.namespaceCandidates hc hc' hm
    exact ⟨m', hm', hlike.satisfies_namespaces.trans hmeets, hlike.name_eq.trans hname⟩

/-- The selector tests the likes of the objects that it tests. -/
theorem considers (h : LooksAlike now s c c') (hc : c.Filed) (hc' : c'.Filed) {name : String}
    (hm : c.Considers now s name m) :
    ∃ m', c'.Considers now s name m' ∧ m.LooksAlike now s m' := by
  obtain ⟨type, ns, htype, hsearched, hm⟩ := hm
  obtain ⟨m', hm', hlike⟩ := h.candidatesIn hc hc' hm
  refine ⟨m', ⟨type, ns, by rw [h.findType?_eq, htype], ?_, hm'⟩, hlike⟩
  cases ns with
  | none => exact hsearched
  | some ns => exact ⟨hsearched.1, h.takesNamespace hc hc' hsearched.2⟩

/-- What overflows on one cluster overflows on the other. -/
theorem stopsAt (h : LooksAlike now s c c') (hc : c.Filed) (hc' : c'.Filed) {name : String}
    (hstops : c.StopsAt now s name) : c'.StopsAt now s name := by
  rcases hstops with ⟨type, htype, hnamespaced, hnamed, m, hm, hover⟩ | ⟨m, hm, hover⟩
  · obtain ⟨m', hm', hlike⟩ := h.namespaceCandidates hc hc' hm
    exact .inl ⟨type, by rw [h.findType?_eq, htype], hnamespaced, hnamed, m', hm',
      hlike.satisfies_namespaces.trans hover⟩
  · obtain ⟨m', hm', hlike⟩ := h.considers hc hc' hm
    exact .inr ⟨m', hm', hlike.satisfies_objects.trans hover⟩

/-- What is found in one cluster is found under the same key in the other. -/
theorem contains (h : LooksAlike now s c c') (hc : c.Filed) (hc' : c'.Filed)
    {found found' : Selected} {k : ObjectKey}
    (hfound : Gathers found fun m => ∃ name ∈ names s.objects.type,
      c.Considers now s name m ∧ Meets now s.objects.fields m)
    (hfound' : Gathers found' fun m => ∃ name ∈ names s.objects.type,
      c'.Considers now s name m ∧ Meets now s.objects.fields m)
    (hk : FiniteMap.contains found k = true) : FiniteMap.contains found' k = true := by
  obtain ⟨m, ⟨name, hname, hm, hmeets⟩, rfl⟩ := (hfound.contains_iff k).1 hk
  obtain ⟨m', hm', hlike⟩ := h.considers hc hc' hm
  exact (hfound'.contains_iff m.key).2
    ⟨m', ⟨name, hname, hm', hlike.satisfies_objects.trans hmeets⟩, hlike.key_eq⟩

/-- **A selector finds the same keys in clusters that it cannot tell apart.** -/
theorem select_keys_eq (h : LooksAlike now s c c') (hc : c.Filed) (hc' : c'.Filed) :
    (Selection.select now s c').map (fun r => FiniteMap.keys r.1)
      = (Selection.select now s c).map (fun r => FiniteMap.keys r.1) := by
  by_cases hstop : ∃ name ∈ names s.objects.type, c.StopsAt now s name
  · have hstop' : ∃ name ∈ names s.objects.type, c'.StopsAt now s name :=
      hstop.imp fun name hstops => ⟨hstops.1, h.stopsAt hc hc' hstops.2⟩
    rw [(select_settles c now s).error hstop, (select_settles c' now s).error hstop']
  · have hgoes : ¬ ∃ name ∈ names s.objects.type, c'.StopsAt now s name := fun hstop' =>
      hstop (hstop'.imp fun name hstops => ⟨hstops.1, h.symm.stopsAt hc' hc hstops.2⟩)
    obtain ⟨found, hrun, hfound⟩ := (select_settles c now s).ok hstop
    obtain ⟨found', hrun', hfound'⟩ := (select_settles c' now s).ok hgoes
    have hkeys : FiniteMap.keys found' = FiniteMap.keys found :=
      hfound'.sorted.keys_eq hfound.sorted fun k =>
        ⟨h.symm.contains hc' hc hfound' hfound, h.contains hc hc' hfound hfound'⟩
    rw [hrun, hrun']
    exact congrArg Except.ok hkeys

end Cluster.LooksAlike

end Slumber
