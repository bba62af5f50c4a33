import Slumber.Proofs.Selection.Labels

/-!
# A selection is one set

A selection goes through types, namespaces and names, asks for the namespaces when it first needs
them, lists or fetches, passes over what fails, and lets a later object take the place of an earlier
one. What it finds is nevertheless one set, and can be described object by object.

* `Cluster.Tidy` — what has to hold of a cluster: its objects are held under their own keys, those
  of cluster-wide types have no namespace, and no group and kind is registered twice;
* `Cluster.Describes` — the selector describes the object;
* `considers_iff_describedAs` — how the loops and the two ways to find objects come down to that;
* `Selector.ListsAlike` — selectors that list the same, in any order and as often as they like;
* `selection_exact` — a selection finds what is described, whatever the order of the lists, and a
  refused listing hides the objects that need it;
* `namespaces_hidden` — among them objects of another namespace and kind.
-/

namespace Slumber

open Cluster Selection Expression Text

namespace Cluster

variable {c : Cluster} {k : ObjectKey} {m : Manifest}

/-! ### Tidy clusters -/

/-- Every object is held under its own key, objects of cluster-wide types have no namespace, and no
group and kind is registered twice. -/
structure Tidy (c : Cluster) : Prop where
  filed : c.Filed
  clusterWide : ∀ {k m}, c.object? k = some m → ∀ t ∈ c.types, t.namespaced = false →
    m.key.group = t.kind.group → m.key.kind = t.kind.kind → m.namespaceName = ""
  types : c.types.Pairwise fun t t' => ¬ (t'.kind.group = t.kind.group ∧ t'.kind.kind = t.kind.kind)

/-- The conditions in a form that can be checked. -/
theorem tidy_iff : c.Tidy ↔ c.objects.Sorted
    ∧ (∀ p ∈ c.objects, p.2.key = p.1 ∧ ∀ t ∈ c.types, t.namespaced = false →
        p.2.key.group = t.kind.group → p.2.key.kind = t.kind.kind → p.2.namespaceName = "")
    ∧ c.types.Pairwise
        fun t t' => ¬ (t'.kind.group = t.kind.group ∧ t'.kind.kind = t.kind.kind) := by
  constructor
  · intro h
    have hfound : ∀ p ∈ c.objects, c.object? p.1 = some p.2 := fun p hp => h.filed.mem_iff.1 hp
    exact ⟨h.filed.sorted,
      fun p hp => ⟨h.filed.key_eq (hfound p hp), h.clusterWide (hfound p hp)⟩, h.types⟩
  · rintro ⟨hsorted, hobjects, htypes⟩
    exact ⟨⟨hsorted, fun hm => (hobjects _ (FiniteMap.mem_of_find? hm)).1⟩,
      fun hm => (hobjects _ (FiniteMap.mem_of_find? hm)).2, htypes⟩

instance : Decidable c.Tidy :=
  decidable_of_iff _ tidy_iff.symm

/-- A registered type is the one that is found for its group and kind. -/
theorem Tidy.find?_types (h : c.Tidy) {t : ResourceType} (ht : t ∈ c.types) :
    c.types.find? (fun t' => t'.kind.group = t.kind.group ∧ t'.kind.kind = t.kind.kind)
      = some t := by
  have hpairs := h.types
  generalize c.types = types at ht hpairs ⊢
  induction types with
  | nil => cases ht
  | cons t' ts ih =>
      obtain ⟨hhead, htail⟩ := List.pairwise_cons.1 hpairs
      rw [List.find?_cons]
      rcases List.mem_cons.1 ht with rfl | ht
      · simp
      · have hother : ¬ (t'.kind.group = t.kind.group ∧ t'.kind.kind = t.kind.kind) :=
          fun hsame => hhead t ht ⟨hsame.1.symm, hsame.2.symm⟩
        simp only [hother, decide_false]
        exact ih ht htail

/-- The key by which an object of a registered type is fetched. -/
theorem Tidy.keyOf_eq (h : c.Tidy) {t : ResourceType} (ht : t ∈ c.types) (ns name : String) :
    c.keyOf ns t.kind name
      = ⟨if t.namespaced then ns else "", t.kind.group, t.kind.version, t.kind.kind, name⟩ := by
  unfold keyOf
  rw [h.find?_types ht]
  rfl

/-- Types of the same objects are the same. -/
theorem Tidy.type_unique (h : c.Tidy) {t t' : ResourceType} (ht : t ∈ c.types) (ht' : t' ∈ c.types)
    (hgroup : t.kind.group = t'.kind.group) (hkind : t.kind.kind = t'.kind.kind) : t = t' := by
  have hfound := h.find?_types ht
  rw [hgroup, hkind, h.find?_types ht', Option.some.injEq] at hfound
  exact hfound.symm

/-- Refusing listings keeps a cluster tidy. -/
theorem Tidy.refuseList (h : c.Tidy) (ns kind : String) : (c.refuseList ns kind).Tidy :=
  ⟨⟨h.filed.sorted, h.filed.key_eq⟩, h.clusterWide, h.types⟩

/-! ### What a selector describes -/

/-- The search of a selector for namespaces gives this one. -/
def HasNamespace (c : Cluster) (now : Instant) (s : NamespaceSelector) (ns : String) : Prop :=
  ∃ found, namespacesOf now s c = .ok (found, c) ∧ ns ∈ found

/-- The selector describes the object for a type, when its namespaces are those that `isIn` has: the
object is of this type and in such a namespace, and has one of the names, or else its listing is not
refused and its labels are as asked for. -/
structure DescribesAs (c : Cluster) (isIn : String → Prop) (s : ObjectSelector)
    (type : ResourceType) (m : Manifest) : Prop where
  group : m.key.group = type.kind.group
  kind : m.key.kind = type.kind.kind
  isIn : type.namespaced = true → isIn m.namespaceName
  found : if names s.name = [] then
      c.Lists (some m.namespaceName) type ∧ MeetsLabels s.labels m.labels
    else m.key.version = type.kind.version ∧ m.name ∈ names s.name

/-- The selector describes the object: for one of its types, and by all of its expressions. -/
structure Describes (c : Cluster) (now : Instant) (s : Selector) (m : Manifest) : Prop where
  type : ∃ name ∈ names s.objects.type, ∃ type, c.findType? name = some type
    ∧ c.DescribesAs (c.HasNamespace now s.namespaces) s.objects type m
  fields : ∀ e ∈ s.objects.fields, trim e ≠ "" → matchesAt e m.document now = .ok true

/-- No expression of the selector overflows on a stored object. -/
def Evaluates (c : Cluster) (now : Instant) (s : Selector) : Prop :=
  ∀ k m, c.object? k = some m → ∀ e ∈ s.objects.fields ++ s.namespaces.fields,
    ∃ isMeant, matchesAt e m.document now = .ok isMeant

end Cluster

namespace Selection

variable {c : Cluster} {now : Instant} {m : Manifest} {s s' : Selector}

/-! ### Expressions -/

/-- An object passes the test by some expressions if it matches all that are not blank. -/
theorem meets_iff {expressions : List String} : Meets now expressions m
    ↔ ∀ e ∈ expressions, trim e ≠ "" → matchesAt e m.document now = .ok true := by
  unfold Meets
  induction expressions with
  | nil => simp [satisfies]
  | cons e es ih =>
      rw [satisfies, List.forall_mem_cons, ← ih]
      split
      · rename_i hblank
        simp [hblank]
      · rename_i hblank
        cases matchesAt e m.document now with
        | error stop => simp [hblank]
        | ok isMeant => cases isMeant <;> simp [hblank]

/-- If all expressions can be evaluated on an object, then its test does not overflow. -/
theorem not_overflows {expressions : List String}
    (h : ∀ e ∈ expressions, ∃ isMeant, matchesAt e m.document now = .ok isMeant) :
    ¬ Overflows now expressions m := by
  unfold Overflows
  induction expressions with
  | nil => simp [satisfies]
  | cons e es ih =>
      obtain ⟨⟨isMeant, he⟩, hes⟩ := List.forall_mem_cons.1 h
      rw [satisfies, he]
      split
      · exact ih hes
      · cases isMeant with
        | true => exact ih hes
        | false => simp

theorem not_stopsAt_of_evaluates (hc : c.Filed) (h : c.Evaluates now s) (name : String) :
    ¬ c.StopsAt now s name := by
  rintro (⟨-, -, -, -, m, hm, hstops⟩ | ⟨m, ⟨type, ns, -, -, hm⟩, hstops⟩)
  · obtain ⟨-, -, -, hstored, -⟩ := (mem_namespaceCandidates_iff hc).1 hm
    exact not_overflows (fun e he => h _ m hstored e (List.mem_append_right _ he)) hstops
  · obtain ⟨hstored, -⟩ := (mem_candidatesIn_iff hc).1 hm
    exact not_overflows (fun e he => h _ m hstored e (List.mem_append_left _ he)) hstops

/-! ### From the loops to the description -/

/-- The two ways to find an object of a registered type in its place. -/
theorem mem_candidatesIn_iff_of_tidy (hc : c.Tidy) {type : ResourceType} (htype : type ∈ c.types)
    (ns : Option String) (hns : ns.isSome = type.namespaced) {s : ObjectSelector} :
    m ∈ c.candidatesIn ns type s ↔ c.object? m.key = some m ∧ ns.getD "" = m.namespaceName
      ∧ c.DescribesAs (fun _ => True) s type m := by
  rw [mem_candidatesIn_iff hc.filed]
  refine and_congr_right fun hm => ?_
  -- Without a namespace the object is of a cluster-wide type, and has none either.
  have hplace : m.key.group = type.kind.group → m.key.kind = type.kind.kind →
      (ns.getD "" = m.namespaceName ↔ type.namespaced = true → ns = some m.namespaceName) := by
    intro hgroup hkind
    cases ns with
    | none =>
        have hwide : type.namespaced = false := hns.symm
        simp [hwide, hc.clusterWide hm type htype hwide hgroup hkind]
    | some ns => simp [← hns]
  by_cases hnamed : names s.name = []
  · rw [if_pos hnamed]
    have hlisted : isListed ns type (labelSelector? s.labels) m.key m = true
        ↔ m.key.group = type.kind.group ∧ m.key.kind = type.kind.kind
          ∧ (type.namespaced = true → ns = some m.namespaceName)
          ∧ MeetsLabels s.labels m.labels := by
      simp only [isListed, Bool.and_eq_true, beq_iff_eq, labelSelector?_all, and_assoc]
      refine and_congr_right fun _ => and_congr_right fun _ => and_congr_left fun _ => ?_
      cases ns with
      | none => simp [← hns]
      | some ns => simp [← hns, Manifest.key]
    rw [hlisted]
    constructor
    · rintro ⟨hfree, hgroup, hkind, hin, hlabels⟩
      have hsame := (hplace hgroup hkind).2 hin
      refine ⟨hsame, hgroup, hkind, fun _ => trivial, ?_⟩
      rw [if_pos hnamed, Cluster.Lists, Option.getD_some, ← hsame]
      exact ⟨hfree, hlabels⟩
    · rintro ⟨hsame, hgroup, hkind, -, hfound⟩
      rw [if_pos hnamed, Cluster.Lists, Option.getD_some, ← hsame] at hfound
      exact ⟨hfound.1, hgroup, hkind, (hplace hgroup hkind).1 hsame, hfound.2⟩
  · rw [if_neg hnamed]
    simp only [hc.keyOf_eq htype]
    constructor
    · rintro ⟨name, hname, hkey⟩
      have hparts := ObjectKey.mk.inj hkey
      obtain ⟨hns', hgroup, hversion, hkind, rfl⟩ := hparts
      refine ⟨?_, hgroup.symm, hkind.symm, fun _ => trivial, ?_⟩
      · refine (hplace hgroup.symm hkind.symm).2 fun hnamespaced => ?_
        obtain ⟨n, rfl⟩ := Option.isSome_iff_exists.1 (hns.trans hnamespaced)
        rw [if_pos hnamespaced] at hns'
        exact congrArg some hns'
      · rw [if_neg hnamed]
        exact ⟨hversion.symm, hname⟩
    · rintro ⟨hsame, hgroup, hkind, -, hfound⟩
      rw [if_neg hnamed] at hfound
      refine ⟨m.name, hfound.2, ?_⟩
      have hns' : (if type.namespaced then ns.getD "" else "") = m.namespaceName := by
        cases hnamespaced : type.namespaced with
        | true => exact hsame
        | false => exact (hc.clusterWide hm type htype hnamespaced hgroup hkind).symm
      rw [hns', ← hgroup, ← hkind, ← hfound.1]
      rfl

theorem describesAs_mono {isIn isIn' : String → Prop} {s : ObjectSelector} {type : ResourceType}
    (h : c.DescribesAs isIn s type m) (hsub : type.namespaced = true → ∀ ns, isIn ns → isIn' ns) :
    c.DescribesAs isIn' s type m :=
  ⟨h.group, h.kind, fun hnamespaced => hsub hnamespaced _ (h.isIn hnamespaced), h.found⟩

/-- What the loops over types, namespaces and names come to is what is described. -/
theorem considers_iff_describedAs (hc : c.Tidy) {name : String} : c.Considers now s name m
    ↔ c.object? m.key = some m ∧ ∃ type, c.findType? name = some type
      ∧ c.DescribesAs (c.TakesNamespace now s.namespaces) s.objects type m := by
  constructor
  · rintro ⟨type, ns, htype, hsearched, hm⟩
    have hserved : type ∈ c.types := List.mem_of_find?_eq_some htype
    cases ns with
    | none =>
        obtain ⟨hstored, -, hdescribed⟩ :=
          (mem_candidatesIn_iff_of_tidy hc hserved none hsearched.symm).1 hm
        exact ⟨hstored, type, htype, describesAs_mono hdescribed fun hnamespaced =>
          absurd (hnamespaced.symm.trans hsearched) (by simp)⟩
    | some ns =>
        obtain ⟨hstored, hplace, hdescribed⟩ :=
          (mem_candidatesIn_iff_of_tidy hc hserved (some ns) hsearched.1.symm).1 hm
        have hplace : ns = m.namespaceName := hplace
        subst hplace
        exact ⟨hstored, type, htype, hdescribed.group, hdescribed.kind, fun _ => hsearched.2,
          hdescribed.found⟩
  · rintro ⟨hstored, type, htype, hdescribed⟩
    have hserved : type ∈ c.types := List.mem_of_find?_eq_some htype
    have hanywhere := describesAs_mono hdescribed fun _ _ _ => trivial
    cases hnamespaced : type.namespaced with
    | false =>
        have hnone := hc.clusterWide hstored type hserved hnamespaced hdescribed.group
          hdescribed.kind
        exact ⟨type, none, htype, hnamespaced,
          (mem_candidatesIn_iff_of_tidy hc hserved none hnamespaced.symm).2
            ⟨hstored, hnone.symm, hanywhere⟩⟩
    | true =>
        exact ⟨type, some m.namespaceName, htype, ⟨hnamespaced, hdescribed.isIn hnamespaced⟩,
          (mem_candidatesIn_iff_of_tidy hc hserved (some _) hnamespaced.symm).2
            ⟨hstored, rfl, hanywhere⟩⟩

/-- The search for namespaces gives those that are taken. -/
theorem hasNamespace_iff {s : NamespaceSelector} (hnot : ¬ c.NamespacesOverflow now s)
    {ns : String} : c.HasNamespace now s ns ↔ c.TakesNamespace now s ns := by
  obtain ⟨found, hfound, hmem⟩ := (namespacesOf_settles c now s).ok hnot
  rw [← hmem, HasNamespace, hfound]
  constructor
  · rintro ⟨found', heq, hns⟩
    cases heq
    exact hns
  · exact fun hns => ⟨found, rfl, hns⟩

/-- If no search for a type overflows, what is considered and passes is what is described. -/
theorem describes_iff (hc : c.Tidy) (hnot : ¬ ∃ name ∈ names s.objects.type, c.StopsAt now s name) :
    (∃ name ∈ names s.objects.type, c.Considers now s name m ∧ Meets now s.objects.fields m)
      ↔ c.object? m.key = some m ∧ c.Describes now s m := by
  have hspaces : ∀ name ∈ names s.objects.type, ∀ type, c.findType? name = some type →
      type.namespaced = true → ∀ ns,
      c.HasNamespace now s.namespaces ns ↔ c.TakesNamespace now s.namespaces ns :=
    fun name hname type htype hnamespaced ns =>
      hasNamespace_iff fun hstops => hnot ⟨name, hname, .inl ⟨type, htype, hnamespaced, hstops⟩⟩
  simp only [considers_iff_describedAs hc, meets_iff]
  constructor
  · rintro ⟨name, hname, ⟨hstored, type, htype, hdescribed⟩, hpass⟩
    refine ⟨hstored, ⟨name, hname, type, htype, ?_⟩, hpass⟩
    exact describesAs_mono hdescribed fun hnamespaced ns =>
      (hspaces name hname type htype hnamespaced ns).2
  · rintro ⟨hstored, ⟨name, hname, type, htype, hdescribed⟩, hpass⟩
    refine ⟨name, hname, ⟨hstored, type, htype, ?_⟩, hpass⟩
    exact describesAs_mono hdescribed fun hnamespaced ns =>
      (hspaces name hname type htype hnamespaced ns).1

theorem stored_of_considers (hc : c.Filed) {name : String} (h : c.Considers now s name m) :
    c.object? m.key = some m := by
  obtain ⟨type, ns, -, -, hm⟩ := h
  exact ((mem_candidatesIn_iff hc).1 hm).1

/-- The entries of what is gathered from stored objects. -/
theorem Gathers.mem_iff (hc : c.Filed) {found : Selected} {P : Manifest → Prop}
    (h : Gathers found P) (hP : ∀ m, P m → c.object? m.key = some m) {k : ObjectKey}
    {m : Manifest} : (k, m) ∈ found ↔ c.object? k = some m ∧ P m := by
  constructor
  · intro hmem
    obtain ⟨hm, hkey⟩ : P m ∧ k = m.key := h.sound _ hmem
    exact ⟨hkey ▸ hP m hm, hm⟩
  · rintro ⟨hm, hp⟩
    obtain ⟨m', hmem⟩ := FiniteMap.contains_iff_exists_mem.1 (h.complete m hp)
    obtain ⟨hm', hkey⟩ : P m' ∧ m.key = m'.key := h.sound _ hmem
    have hsame : some m' = some m := by rw [← hP m' hm', ← hkey, hP m hp]
    rw [hc.key_eq hm, Option.some.inj hsame] at hmem
    exact hmem

/-- The entries of a selection: what is considered and passes. -/
theorem mem_select_iff_considers (hc : c.Filed) {found : Selected} {k : ObjectKey}
    (h : Gathers found fun m => ∃ name ∈ names s.objects.type,
      c.Considers now s name m ∧ Meets now s.objects.fields m) :
    (k, m) ∈ found ↔ c.object? k = some m ∧ ∃ name ∈ names s.objects.type,
      c.Considers now s name m ∧ Meets now s.objects.fields m :=
  h.mem_iff hc fun _ ⟨_, _, hconsidered, _⟩ => stored_of_considers hc hconsidered

end Selection

/-! ### The order of the lists -/

/-- The selectors list the same types, names, namespaces and terms for labels, in any order and as
often as they like, and the same expressions. -/
structure Selector.ListsAlike (s s' : Selector) : Prop where
  types : ∀ x, x ∈ names s'.objects.type ↔ x ∈ names s.objects.type
  objectNames : ∀ x, x ∈ names s'.objects.name ↔ x ∈ names s.objects.name
  namespaces : ∀ x, x ∈ names s'.namespaces.name ↔ x ∈ names s.namespaces.name
  labels : ∀ t, t ∈ s'.objects.labels.flatMap LabelSelector.terms
    ↔ t ∈ s.objects.labels.flatMap LabelSelector.terms
  namespaceLabels : ∀ t, t ∈ s'.namespaces.labels.flatMap LabelSelector.terms
    ↔ t ∈ s.namespaces.labels.flatMap LabelSelector.terms
  fields : s'.objects.fields = s.objects.fields
  namespaceFields : s'.namespaces.fields = s.namespaces.fields

namespace Selection

variable {c : Cluster} {now : Instant} {m : Manifest} {s s' : Selector}

theorem meetsLabels_iff {entries : List String} {labels : FiniteMap String String} :
    MeetsLabels entries labels
      ↔ ∀ t ∈ entries.flatMap LabelSelector.terms, t.holds labels = true := by
  simp only [MeetsLabels, List.mem_flatMap]
  constructor
  · rintro h t ⟨entry, hentry, ht⟩
    exact h entry hentry t ht
  · exact fun h entry hentry t ht => h t ⟨entry, hentry, ht⟩

/-- A listing is given by the terms that it asks for. -/
theorem list_eq_of_terms {entries entries' : List String} (h : ∀ t,
      t ∈ entries'.flatMap LabelSelector.terms ↔ t ∈ entries.flatMap LabelSelector.terms)
    (ns : Option String) (type : ResourceType) :
    c.list ns type (labelSelector? entries') = c.list ns type (labelSelector? entries) := by
  have hall : ∀ labels, (labelSelector? entries').all (LabelSelector.selects · labels)
      = (labelSelector? entries).all (LabelSelector.selects · labels) := fun labels => by
    rw [Bool.eq_iff_iff, labelSelector?_all, labelSelector?_all, meetsLabels_iff, meetsLabels_iff]
    exact forall_congr' fun t => by rw [h]
  unfold Cluster.list
  simp only [Cluster.select, hall]

/-- A list of names is empty when nothing is in it. -/
theorem eq_nil_iff_of_mem_iff {l l' : List String} (h : ∀ x, x ∈ l' ↔ x ∈ l) :
    l' = [] ↔ l = [] := by
  simp only [List.eq_nil_iff_forall_not_mem, h]

end Selection

namespace Selector.ListsAlike

variable {c : Cluster} {now : Instant} {m : Manifest} {s s' : Selector}

theorem mem_candidatesIn_iff (h : s.ListsAlike s') {ns : Option String} {type : ResourceType} :
    m ∈ c.candidatesIn ns type s'.objects ↔ m ∈ c.candidatesIn ns type s.objects := by
  have hnamed := eq_nil_iff_of_mem_iff h.objectNames
  unfold candidatesIn
  simp only [hnamed, list_eq_of_terms h.labels]
  split
  · rfl
  · simp only [List.mem_filterMap, h.objectNames]

theorem namespaceCandidates_eq (h : s.ListsAlike s') :
    c.namespaceCandidates s'.namespaces = c.namespaceCandidates s.namespaces := by
  unfold namespaceCandidates
  simp only [list_eq_of_terms h.namespaceLabels]

theorem namesNamespaces_iff (h : s.ListsAlike s') :
    NamesNamespaces s'.namespaces ↔ NamesNamespaces s.namespaces := by
  unfold NamesNamespaces
  rw [ne_eq, eq_nil_iff_of_mem_iff h.namespaces, h.namespaces]

theorem takesNamespace_iff (h : s.ListsAlike s') {ns : String} :
    c.TakesNamespace now s'.namespaces ns ↔ c.TakesNamespace now s.namespaces ns := by
  unfold TakesNamespace
  simp only [h.namesNamespaces_iff, h.namespaces, h.namespaceCandidates_eq, h.namespaceFields]

theorem considers_iff (h : s.ListsAlike s') {name : String} :
    c.Considers now s' name m ↔ c.Considers now s name m := by
  have hsearched : ∀ type ns, c.IsSearched now s'.namespaces type ns
      ↔ c.IsSearched now s.namespaces type ns := fun type ns => by
    cases ns with
    | none => rfl
    | some ns => simp only [IsSearched, h.takesNamespace_iff]
  unfold Considers
  simp only [hsearched, h.mem_candidatesIn_iff]

theorem stopsAt_iff (h : s.ListsAlike s') {name : String} :
    c.StopsAt now s' name ↔ c.StopsAt now s name := by
  unfold StopsAt NamespacesOverflow
  simp only [h.namesNamespaces_iff, h.namespaceCandidates_eq, h.namespaceFields, h.considers_iff,
    h.fields]

/-- Such selectors find the same. -/
theorem select_eq (h : s.ListsAlike s') (hc : c.Filed) (now : Instant) :
    Selection.select now s' c = Selection.select now s c := by
  have hstops : (∃ name ∈ names s'.objects.type, c.StopsAt now s' name)
      ↔ ∃ name ∈ names s.objects.type, c.StopsAt now s name := by
    simp only [h.types, h.stopsAt_iff]
  by_cases hstop : ∃ name ∈ names s.objects.type, c.StopsAt now s name
  · rw [(select_settles c now s).error hstop, (select_settles c now s').error (hstops.2 hstop)]
  · obtain ⟨found, hrun, hfound⟩ := (select_settles c now s).ok hstop
    obtain ⟨found', hrun', hfound'⟩ := (select_settles c now s').ok (mt hstops.1 hstop)
    have hsame : found' = found := hfound'.sorted.ext hfound.sorted fun (k, m) => by
      rw [mem_select_iff_considers hc hfound', mem_select_iff_considers hc hfound]
      simp only [h.types, h.considers_iff, h.fields]
    rw [hrun, hrun', hsame]

end Selector.ListsAlike

/-! ### Refused listings -/

namespace Cluster

variable {c : Cluster} {now : Instant} {m : Manifest} {ns₀ kind₀ : String}

/-- One more listing is refused. -/
theorem lists_refuseList_iff {ns : Option String} {type : ResourceType} :
    (c.refuseList ns₀ kind₀).Lists ns type
      ↔ c.Lists ns type ∧ ns.getD "" ++ "/" ++ type.kind.kind ≠ ns₀ ++ "/" ++ kind₀ := by
  unfold Lists refuseList
  by_cases hsame : ns₀ ++ "/" ++ kind₀ = ns.getD "" ++ "/" ++ type.kind.kind
  · simp [hsame]
  · simp [FiniteMap.find?_insert_of_ne _ _ hsame, Ne.symm hsame]

/-- The selector asks for the namespaces by this listing. -/
def ListsNamespaces (c : Cluster) (s : NamespaceSelector) (listing : String) : Prop :=
  ¬ NamesNamespaces s
    ∧ ∃ type, c.findType? "namespaces" = some type ∧ listing = "" ++ "/" ++ type.kind.kind

theorem mem_namespaceCandidates_refuseList {s : NamespaceSelector} (hnamed : ¬ NamesNamespaces s) :
    m ∈ (c.refuseList ns₀ kind₀).namespaceCandidates s
      ↔ m ∈ c.namespaceCandidates s ∧ ¬ c.ListsNamespaces s (ns₀ ++ "/" ++ kind₀) := by
  have htype : (c.refuseList ns₀ kind₀).findType? "namespaces" = c.findType? "namespaces" := rfl
  unfold namespaceCandidates ListsNamespaces
  rw [htype]
  cases c.findType? "namespaces" with
  | none => simp
  | some type =>
      simp only [mem_list_iff, lists_refuseList_iff, Option.getD_none, Option.some.injEq,
        exists_eq_left', hnamed, not_false_eq_true, true_and, ne_eq]
      rw [and_assoc, and_assoc, eq_comm (b := ns₀ ++ "/" ++ kind₀)]
      exact and_congr_right fun _ => and_comm

theorem takesNamespace_refuseList {s : NamespaceSelector} {ns : String} :
    (c.refuseList ns₀ kind₀).TakesNamespace now s ns
      ↔ c.TakesNamespace now s ns ∧ ¬ c.ListsNamespaces s (ns₀ ++ "/" ++ kind₀) := by
  unfold TakesNamespace
  by_cases hnamed : NamesNamespaces s
  · simp [hnamed, ListsNamespaces]
  · simp only [if_neg hnamed, mem_namespaceCandidates_refuseList hnamed]
    exact ⟨fun ⟨m, ⟨hm, hspared⟩, hmeant⟩ => ⟨⟨m, hm, hmeant⟩, hspared⟩,
      fun ⟨⟨m, hm, hmeant⟩, hspared⟩ => ⟨m, ⟨hm, hspared⟩, hmeant⟩⟩

/-- The selector needs a listing for an object of the type: that of the objects, or that of the
namespaces. -/
def NeedsListingFor (c : Cluster) (s : Selector) (type : ResourceType) (m : Manifest)
    (listing : String) : Prop :=
  names s.objects.name = [] ∧ listing = m.namespaceName ++ "/" ++ type.kind.kind
    ∨ type.namespaced = true ∧ c.ListsNamespaces s.namespaces listing

/-- In a tidy cluster an object is of one type. -/
theorem Tidy.needsListing_iff (hc : c.Tidy) {s : Selector} {name : String}
    (hname : name ∈ names s.objects.type) {type : ResourceType}
    (htype : c.findType? name = some type) (hstored : c.object? m.key = some m)
    (hgroup : m.key.group = type.kind.group) (hkind : m.key.kind = type.kind.kind)
    {listing : String} :
    c.NeedsListing s m.key listing ↔ c.NeedsListingFor s type m listing := by
  have hserved : type ∈ c.types := List.mem_of_find?_eq_some htype
  have hplace : (if type.namespaced then m.key.namespaceName else "") ++ "/" ++ m.key.kind
      = m.namespaceName ++ "/" ++ type.kind.kind := by
    rw [hkind]
    cases hnamespaced : type.namespaced with
    | true => rfl
    | false => rw [hc.clusterWide hstored type hserved hnamespaced hgroup hkind]; rfl
  rw [NeedsListingFor, ← hplace]
  constructor
  · rintro ⟨name', -, type', htype', hgroup', hkind', hneeds⟩
    have hsame := hc.type_unique (List.mem_of_find?_eq_some htype') hserved
      (hgroup'.trans hgroup) (hkind'.trans hkind)
    subst hsame
    exact hneeds
  · exact fun hneeds => ⟨name, hname, type, htype, hgroup.symm, hkind.symm, hneeds⟩

theorem describesAs_refuseList {s : Selector} {type : ResourceType} :
    (c.refuseList ns₀ kind₀).DescribesAs ((c.refuseList ns₀ kind₀).TakesNamespace now s.namespaces)
        s.objects type m
      ↔ c.DescribesAs (c.TakesNamespace now s.namespaces) s.objects type m
        ∧ ¬ c.NeedsListingFor s type m (ns₀ ++ "/" ++ kind₀) := by
  rw [NeedsListingFor, not_or, not_and, not_and]
  constructor
  · rintro ⟨hgroup, hkind, hin, hfound⟩
    have hspaces := fun hnamespaced => takesNamespace_refuseList.1 (hin hnamespaced)
    refine ⟨⟨hgroup, hkind, fun hnamespaced => (hspaces hnamespaced).1, ?_⟩, fun hunnamed => ?_,
      fun hnamespaced => (hspaces hnamespaced).2⟩
    · split at hfound
      · rename_i hunnamed
        rw [if_pos hunnamed]
        exact ⟨(lists_refuseList_iff.1 hfound.1).1, hfound.2⟩
      · rename_i hnamed
        rw [if_neg hnamed]
        exact hfound
    · rw [if_pos hunnamed] at hfound
      exact (lists_refuseList_iff.1 hfound.1).2.symm
  · rintro ⟨⟨hgroup, hkind, hin, hfound⟩, hlisting, hspaces⟩
    refine ⟨hgroup, hkind, fun hnamespaced =>
      takesNamespace_refuseList.2 ⟨hin hnamespaced, hspaces hnamespaced⟩, ?_⟩
    split at hfound
    · rename_i hunnamed
      rw [if_pos hunnamed]
      exact ⟨lists_refuseList_iff.2 ⟨hfound.1, Ne.symm (hlisting hunnamed)⟩, hfound.2⟩
    · rename_i hnamed
      rw [if_neg hnamed]
      exact hfound

/-- A refused listing hides the objects that need it, and no others. -/
theorem considers_refuseList (hc : c.Tidy) {s : Selector} {name : String}
    (hname : name ∈ names s.objects.type) :
    (c.refuseList ns₀ kind₀).Considers now s name m
      ↔ c.Considers now s name m ∧ ¬ c.NeedsListing s m.key (ns₀ ++ "/" ++ kind₀) := by
  rw [considers_iff_describedAs (hc.refuseList ns₀ kind₀), considers_iff_describedAs hc, and_assoc]
  refine and_congr_right fun hstored => ?_
  have hneeds : ∀ type, c.findType? name = some type →
      c.DescribesAs (c.TakesNamespace now s.namespaces) s.objects type m →
      (c.NeedsListing s m.key (ns₀ ++ "/" ++ kind₀)
        ↔ c.NeedsListingFor s type m (ns₀ ++ "/" ++ kind₀)) :=
    fun type htype h => hc.needsListing_iff hname htype hstored h.group h.kind
  constructor
  · rintro ⟨type, htype, hdescribed⟩
    obtain ⟨hdescribed, hspared⟩ := describesAs_refuseList.1 hdescribed
    exact ⟨⟨type, htype, hdescribed⟩, mt (hneeds type htype hdescribed).1 hspared⟩
  · rintro ⟨⟨type, htype, hdescribed⟩, hspared⟩
    exact ⟨type, htype, describesAs_refuseList.2
      ⟨hdescribed, mt (hneeds type htype hdescribed).2 hspared⟩⟩

/-- What overflows when one more listing is refused overflowed before. -/
theorem stopsAt_of_refuseList (hc : c.Tidy) {s : Selector} {name : String}
    (hname : name ∈ names s.objects.type) (h : (c.refuseList ns₀ kind₀).StopsAt now s name) :
    c.StopsAt now s name := by
  rcases h with ⟨type, htype, hnamespaced, hnamed, m, hm, hstops⟩ | ⟨m, hm, hstops⟩
  · exact .inl ⟨type, htype, hnamespaced, hnamed, m,
      ((mem_namespaceCandidates_refuseList hnamed).1 hm).1, hstops⟩
  · exact .inr ⟨m, ((considers_refuseList hc hname).1 hm).1, hstops⟩

end Cluster

/-! ### Selections -/

namespace Selection

/-- **A selection is exact.**  On a tidy cluster, with any refused listings, a selector finds the
stored objects that it describes, each once and under its key; it does find them unless one of its
expressions overflows. In what order, and how often, it lists types, names, namespaces and labels
makes no difference. If one more listing is refused, it finds the same objects but for those that
need this listing. -/
theorem selection_exact (c : Cluster) (hc : c.Tidy) (now : Instant) (s : Selector) :
    (c.Evaluates now s → ∃ found, select now s c = .ok (found, c))
    ∧ (∀ found c', select now s c = .ok (found, c') → c' = c ∧ FiniteMap.Sorted found
      ∧ (∀ k m, (k, m) ∈ found ↔ c.object? k = some m ∧ c.Describes now s m)
      ∧ ∀ ns kind, ∃ found',
        select now s (c.refuseList ns kind) = .ok (found', c.refuseList ns kind)
        ∧ ∀ k m, (k, m) ∈ found'
          ↔ (k, m) ∈ found ∧ ¬ c.NeedsListing s k (ns ++ "/" ++ kind))
    ∧ ∀ s', s.ListsAlike s' → select now s' c = select now s c := by
  refine ⟨fun hends => ?_, fun found c' hrun => ?_, fun s' hlists => hlists.select_eq hc.filed now⟩
  · obtain ⟨found, hrun, -⟩ := (select_settles c now s).ok
      fun ⟨name, _, hstops⟩ => not_stopsAt_of_evaluates hc.filed hends name hstops
    exact ⟨found, hrun⟩
  · obtain ⟨rfl, hnot, hfound⟩ := (select_settles c now s).of_ok hrun
    refine ⟨rfl, hfound.sorted, fun k m => ?_, fun ns kind => ?_⟩
    · rw [mem_select_iff_considers hc.filed hfound, describes_iff hc hnot]
      refine and_congr_right fun hm => and_iff_right ?_
      rw [hc.filed.key_eq hm, hm]
    · obtain ⟨found', hrun', hfound'⟩ := (select_settles (c'.refuseList ns kind) now s).ok
        fun ⟨name, hname, hstops⟩ => hnot ⟨name, hname, stopsAt_of_refuseList hc hname hstops⟩
      refine ⟨found', hrun', fun k m => ?_⟩
      rw [mem_select_iff_considers (hc.refuseList ns kind).filed hfound',
        mem_select_iff_considers hc.filed hfound, and_assoc]
      refine and_congr_right fun hm => ?_
      have hkey := hc.filed.key_eq hm
      subst hkey
      constructor
      · rintro ⟨name, hname, hconsidered, hpass⟩
        obtain ⟨hconsidered, hspared⟩ := (considers_refuseList hc hname).1 hconsidered
        exact ⟨⟨name, hname, hconsidered, hpass⟩, hspared⟩
      · rintro ⟨⟨name, hname, hconsidered, hpass⟩, hspared⟩
        exact ⟨name, hname, (considers_refuseList hc hname).2 ⟨hconsidered, hspared⟩, hpass⟩

/-- A namespace with a workload in it. -/
def prodCluster : Cluster :=
  clusterOf [keptNamespace [], keptWorkload]

/-- The workloads of all namespaces. -/
def everywhere : Selector :=
  ⟨{ type := "deployment" }, {}⟩

/-- Listed twice, and after another type, the workload is found as if it were listed once. -/
theorem selection_exact_sample :
    prodCluster.Tidy ∧ prodCluster.Evaluates ⟨0, 0⟩ (inProd "deployment,pod" "" ["keep=yes"])
    ∧ (inProd "deployment,pod" "" ["keep=yes"]).ListsAlike
        (inProd " pod ,deployment,pod" "" ["keep=yes,keep = yes", ""])
    ∧ ∃ found, select ⟨0, 0⟩ (inProd " pod ,deployment,pod" "" ["keep=yes,keep = yes", ""])
          prodCluster = .ok (found, prodCluster)
      ∧ (keptWorkload.key, keptWorkload) ∈ found := by
  have htidy : prodCluster.Tidy := by decide +kernel
  have hends : prodCluster.Evaluates ⟨0, 0⟩ (inProd "deployment,pod" "" ["keep=yes"]) :=
    fun _ _ _ e he => (nomatch he)
  have hlists : (inProd "deployment,pod" "" ["keep=yes"]).ListsAlike
      (inProd " pod ,deployment,pod" "" ["keep=yes,keep = yes", ""]) := by
    refine ⟨fun x => ?_, fun x => Iff.rfl, fun x => Iff.rfl, fun t => ?_, fun t => Iff.rfl, rfl,
      rfl⟩
    · have hone : names "deployment,pod" = ["deployment", "pod"] := by decide +kernel
      have htwo : names " pod ,deployment,pod" = ["pod", "deployment", "pod"] := by decide +kernel
      simp only [inProd, hone, htwo, List.mem_cons, List.not_mem_nil, or_false]
      tauto
    · have hone : ["keep=yes"].flatMap LabelSelector.terms = [.equal "keep" "yes"] := by
        decide +kernel
      have htwo : ["keep=yes,keep = yes", ""].flatMap LabelSelector.terms
          = [.equal "keep" "yes", .equal "keep" "yes"] := by decide +kernel
      simp [inProd, hone, htwo]
  obtain ⟨hreturns, hexact, horder⟩ :=
    selection_exact prodCluster htidy ⟨0, 0⟩ (inProd "deployment,pod" "" ["keep=yes"])
  obtain ⟨found, hrun⟩ := hreturns hends
  obtain ⟨-, -, hmem, -⟩ := hexact found _ hrun
  refine ⟨htidy, hends, hlists, found, (horder _ hlists).trans hrun, (hmem _ _).2 ⟨?_, ?_⟩⟩
  · decide +kernel
  · refine ⟨⟨"deployment", by decide +kernel,
      served "apps" "v1" "Deployment" "deployments", by decide +kernel,
      by decide +kernel, by decide +kernel, fun _ => ⟨["prod"], rfl, by decide⟩, ?_⟩,
      fun e he => (nomatch he)⟩
    rw [if_pos (by decide +kernel)]
    exact ⟨by unfold Cluster.Lists; decide +kernel, by decide +kernel⟩

/-- If the listing of the namespaces is refused, a workload of one of them is not found, though its
own listing is not refused. -/
theorem namespaces_hidden :
    prodCluster.Tidy
    ∧ (∃ c', select ⟨0, 0⟩ everywhere prodCluster = .ok ([(keptWorkload.key, keptWorkload)], c'))
    ∧ (∃ c', select ⟨0, 0⟩ everywhere (prodCluster.refuseList "" "Namespace") = .ok ([], c'))
    ∧ keptWorkload.key.namespaceName ≠ "" ∧ keptWorkload.key.kind ≠ "Namespace" := by
  refine ⟨by decide +kernel, exists_select_eq ?_, exists_select_eq ?_, by decide +kernel,
    by decide +kernel⟩
  · decide +kernel
  · decide +kernel

end Selection

end Slumber
