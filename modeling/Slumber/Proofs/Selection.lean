import Slumber.Proofs.Cluster.Alike
import Slumber.Proofs.Selection.Outcomes
import Slumber.Transition.Engine

/-!
# What a selection finds

A selection reads a cluster and leaves it as it is. What it finds is described without reference to
how it goes about it: `Cluster.Means` says when a selector means an object, `Cluster.Includes` and
`Cluster.Excludes` when a rule does.

* `Run.Reads` — an activity that leaves the state as it is, and what its result is like;
* `Cluster.Means` — the selector means the object, as far as listings are not refused;
* `select_gathers`, `selectRule_reads`, `selectGroup_reads` — selections find what is meant.
-/

namespace Slumber

open Cluster Selection Expression Text

/-! ### Activities that only read -/

/-- The activity leaves the state as it is, and its result has the property. There is a result for
sure if `T` holds. -/
structure Run.Reads {σ α : Type} (T : Prop) (x : Run σ α) (s : σ) (P : α → Prop) : Prop where
  exists_ok : T → ∃ a, x s = .ok (a, s)
  of_ok : ∀ a s', x s = .ok (a, s') → s' = s ∧ P a

namespace Run.Reads

variable {σ α β : Type} {T : Prop} {s : σ} {P : α → Prop} {Q : β → Prop}

theorem of_pure {a : α} (h : P a) : Run.Reads T (pure a : Run σ α) s P := by
  refine ⟨fun _ => ⟨a, rfl⟩, fun b s' heq => ?_⟩
  rw [Run.pure_apply, Except.ok.injEq, Prod.mk.injEq] at heq
  obtain ⟨rfl, rfl⟩ := heq
  exact ⟨rfl, h⟩

/-- An activity of which is known when an overflow ends it. -/
theorem of_settles {x : Run σ α} {stops : Prop} {P' : α → Prop} (hx : Run.Settles x s stops P')
    (hT : T → ¬ stops) (h : ∀ a, P' a → P a) : Run.Reads T x s P := by
  refine ⟨fun ht => (hx.ok (hT ht)).imp fun _ ha => ha.1, fun a s' heq => ?_⟩
  obtain ⟨hs, -, hp⟩ := hx.of_ok heq
  exact ⟨hs, h a hp⟩

theorem bind {x : Run σ α} {f : α → Run σ β} (hx : Run.Reads T x s P)
    (hf : ∀ a, P a → Run.Reads T (f a) s Q) : Run.Reads T (x >>= f) s Q := by
  refine ⟨fun hT => ?_, fun b s' heq => ?_⟩
  · obtain ⟨a, ha⟩ := hx.exists_ok hT
    rw [Run.bind_of_ok ha]
    exact (hf a (hx.of_ok a s ha).2).exists_ok hT
  · obtain ⟨a, s₁, ha, hb⟩ := Run.bind_ok.1 heq
    obtain ⟨rfl, hp⟩ := hx.of_ok a s₁ ha
    exact (hf a hp).of_ok b s' hb

theorem mono {P' : α → Prop} {x : Run σ α} (hx : Run.Reads T x s P) (h : ∀ a, P a → P' a) :
    Run.Reads T x s P' := by
  refine ⟨hx.exists_ok, fun a s' heq => ?_⟩
  obtain ⟨hs, hp⟩ := hx.of_ok a s' heq
  exact ⟨hs, h a hp⟩

end Run.Reads

/-! ### Maps of selected objects -/

namespace Selection

variable {c : Cluster} {k : ObjectKey} {m : Manifest} {selected : Selected}

/-- What is selected is stored. -/
def Selected.IsStored (c : Cluster) (selected : Selected) : Prop :=
  ∀ p ∈ selected, c.object? p.1 = some p.2

theorem Selected.IsStored.including (hsel : selected.IsStored c) {objects : List Manifest}
    (h : ∀ m ∈ objects, c.object? m.key = some m) : (selected.including objects).IsStored c := by
  induction objects generalizing selected with
  | nil => exact hsel
  | cons m objects ih =>
      rw [including_cons]
      refine ih (fun p hp => ?_) fun n hn => h n (List.mem_cons_of_mem _ hn)
      obtain ⟨k, n⟩ := p
      rcases FiniteMap.mem_of_mem_insert hp with heq | hp
      · obtain ⟨rfl, rfl⟩ := Prod.mk.inj heq
        exact h n List.mem_cons_self
      · exact hsel (k, n) hp

/-- In what is selected from a keyed cluster the keys are those of the manifests. -/
theorem Selected.IsStored.contains_iff (hsel : selected.IsStored c) :
    FiniteMap.contains selected k = true ↔ ∃ m, (k, m) ∈ selected ∧ c.object? k = some m := by
  rw [FiniteMap.contains_iff_exists_mem]
  exact ⟨fun ⟨m, hm⟩ => ⟨m, hm, hsel (k, m) hm⟩, fun ⟨m, hm, _⟩ => ⟨m, hm⟩⟩

/-- The entries that a test on keys leaves. -/
theorem Selected.contains_filter (selected : Selected) (test : ObjectKey → Bool) :
    FiniteMap.contains (selected.filter fun p => test p.1) k = true
      ↔ FiniteMap.contains selected k = true ∧ test k = true := by
  rw [FiniteMap.contains_iff_exists_mem, FiniteMap.contains_iff_exists_mem]
  constructor
  · rintro ⟨m, hm⟩
    obtain ⟨hmem, htest⟩ := List.mem_filter.1 hm
    exact ⟨⟨m, hmem⟩, htest⟩
  · rintro ⟨⟨m, hm⟩, htest⟩
    exact ⟨m, List.mem_filter.2 ⟨hm, htest⟩⟩

end Selection

/-! ### What selectors mean -/

namespace Cluster

/-- Listings of a type in a namespace, or in all, are not refused. -/
def Lists (c : Cluster) (ns : Option String) (type : ResourceType) : Prop :=
  c.refusedLists.find? (ns.getD "" ++ "/" ++ type.kind.kind) = none

theorem lists_of_refusedLists {c : Cluster} (h : c.refusedLists = []) (ns : Option String)
    (type : ResourceType) : c.Lists ns type := by
  unfold Lists
  rw [h]
  rfl

/-- The selector means a namespace. -/
def MeansNamespace (c : Cluster) (now : Instant) (s : NamespaceSelector) (ns : String) : Prop :=
  if NamesNamespaces s then ns ∈ names s.name
  else ∃ type, c.findType? "namespaces" = some type ∧ c.Lists none type
    ∧ ∃ m, c.object? m.key = some m ∧ isListed none type (labelSelector? s.labels) m.key m = true
      ∧ satisfies now m.document s.fields = .ok true ∧ m.name = ns

/-- The selector means an object of a type in a namespace, or without one. -/
def MeansIn (c : Cluster) (now : Instant) (ns : Option String) (type : ResourceType)
    (s : ObjectSelector) (m : Manifest) : Prop :=
  satisfies now m.document s.fields = .ok true
    ∧ if names s.name = [] then
        c.Lists ns type ∧ isListed ns type (labelSelector? s.labels) m.key m = true
      else ∃ name ∈ names s.name, c.keyOf (ns.getD "") type.kind name = m.key

/-- The selector means an object of the type with a name. -/
def MeansOf (c : Cluster) (now : Instant) (s : Selector) (name : String) (m : Manifest) : Prop :=
  ∃ type, c.findType? name = some type
    ∧ if type.namespaced then
        ∃ ns, c.MeansNamespace now s.namespaces ns ∧ c.MeansIn now (some ns) type s.objects m
      else c.MeansIn now none type s.objects m

/-- The selector means an object, as far as the listings it needs are not refused. -/
def Means (c : Cluster) (now : Instant) (s : Selector) (m : Manifest) : Prop :=
  ∃ name ∈ names s.objects.type, c.MeansOf now s name m

/-- One of the selectors means the object. -/
def MeansAny (c : Cluster) (now : Instant) (selectors : List Selector) (m : Manifest) : Prop :=
  ∃ s ∈ selectors, c.Means now s m

/-- The inclusions of the rule mean the object. -/
def Includes (c : Cluster) (now : Instant) (r : Rule) (m : Manifest) : Prop :=
  c.MeansAny now r.inclusions m

/-- The exclusions of the rule mean the object. -/
def Excludes (c : Cluster) (now : Instant) (r : Rule) (m : Manifest) : Prop :=
  c.MeansAny now r.exclusions m

end Cluster

/-- The selector uses no expressions. -/
def Selector.IsPlain (s : Selector) : Prop :=
  s.objects.fields = [] ∧ s.namespaces.fields = []

/-- The rule uses no expressions. -/
def Rule.IsPlain (r : Rule) : Prop :=
  (∀ s ∈ r.inclusions, s.IsPlain) ∧ ∀ s ∈ r.exclusions, s.IsPlain

instance (s : Selector) : Decidable s.IsPlain :=
  inferInstanceAs (Decidable (_ ∧ _))

instance (r : Rule) : Decidable r.IsPlain :=
  inferInstanceAs (Decidable ((∀ s ∈ _, _) ∧ ∀ s ∈ _, _))

/-! ### Reading a cluster -/

namespace Selection

variable {T : Prop} {c : Cluster} {now : Instant} {k : ObjectKey} {m : Manifest}

theorem mem_list_iff {ns : Option String} {type : ResourceType} {labels : Option String} :
    m ∈ (c.list ns type labels).toOption.getD []
      ↔ c.Lists ns type ∧ m ∈ c.select ns type labels := by
  unfold Cluster.list Cluster.Lists
  cases c.refusedLists.find? (ns.getD "" ++ "/" ++ type.kind.kind) with
  | none => simp [Except.toOption]
  | some reason => simp [Except.toOption]

/-- The objects that are tested are stored, and meant but for the expressions. -/
theorem mem_candidatesIn_iff (hc : c.Filed) {ns : Option String} {type : ResourceType}
    {s : ObjectSelector} :
    m ∈ c.candidatesIn ns type s ↔ c.object? m.key = some m
      ∧ if names s.name = [] then
          c.Lists ns type ∧ isListed ns type (labelSelector? s.labels) m.key m = true
        else ∃ name ∈ names s.name, c.keyOf (ns.getD "") type.kind name = m.key := by
  unfold candidatesIn
  split
  · rw [mem_list_iff, mem_select_iff hc]
    exact and_left_comm
  · rw [List.mem_filterMap]
    constructor
    · rintro ⟨name, hname, hm⟩
      rw [hc.key_eq hm]
      exact ⟨hm, name, hname, rfl⟩
    · rintro ⟨hm, name, hname, hkey⟩
      exact ⟨name, hname, hkey ▸ hm⟩

theorem mem_namespaceCandidates_iff (hc : c.Filed) {s : NamespaceSelector} :
    m ∈ c.namespaceCandidates s ↔ ∃ type, c.findType? "namespaces" = some type ∧ c.Lists none type
      ∧ c.object? m.key = some m ∧ isListed none type (labelSelector? s.labels) m.key m = true := by
  unfold namespaceCandidates
  cases c.findType? "namespaces" with
  | none => simp
  | some type => simp [mem_list_iff, mem_select_iff hc]

/-- The namespaces that are taken are those that are meant. -/
theorem takesNamespace_iff (hc : c.Filed) {s : NamespaceSelector} {ns : String} :
    c.TakesNamespace now s ns ↔ c.MeansNamespace now s ns := by
  unfold TakesNamespace MeansNamespace
  split
  · rfl
  · simp only [mem_namespaceCandidates_iff hc]
    constructor
    · rintro ⟨m, ⟨type, htype, hfree, hm, hlisted⟩, hmeets, hname⟩
      exact ⟨type, htype, hfree, m, hm, hlisted, hmeets, hname⟩
    · rintro ⟨type, htype, hfree, m, hm, hlisted, hmeets, hname⟩
      exact ⟨m, ⟨type, htype, hfree, hm, hlisted⟩, hmeets, hname⟩

/-- The objects that are tested and pass are those that are meant. -/
theorem considers_iff (hc : c.Filed) {s : Selector} {name : String} :
    c.Considers now s name m ∧ Meets now s.objects.fields m
      ↔ c.object? m.key = some m ∧ c.MeansOf now s name m := by
  have hin : ∀ ns type, m ∈ c.candidatesIn ns type s.objects ∧ Meets now s.objects.fields m
      ↔ c.object? m.key = some m ∧ c.MeansIn now ns type s.objects m := fun ns type => by
    rw [mem_candidatesIn_iff hc, and_assoc]
    exact and_congr_right fun _ => and_comm
  constructor
  · rintro ⟨⟨type, ns, htype, hsearched, hm⟩, hmeets⟩
    obtain ⟨hstored, hmeans⟩ := (hin ns type).1 ⟨hm, hmeets⟩
    refine ⟨hstored, type, htype, ?_⟩
    cases ns with
    | none =>
        have hwide : ¬ type.namespaced = true := Bool.eq_false_iff.1 hsearched
        rw [if_neg hwide]
        exact hmeans
    | some ns =>
        rw [if_pos hsearched.1]
        exact ⟨ns, (takesNamespace_iff hc).1 hsearched.2, hmeans⟩
  · rintro ⟨hstored, type, htype, hmeans⟩
    split at hmeans
    · rename_i hnamespaced
      obtain ⟨ns, hns, hmeans⟩ := hmeans
      obtain ⟨hm, hmeets⟩ := (hin (some ns) type).2 ⟨hstored, hmeans⟩
      exact ⟨⟨type, some ns, htype, ⟨hnamespaced, (takesNamespace_iff hc).2 hns⟩, hm⟩, hmeets⟩
    · rename_i hwide
      obtain ⟨hm, hmeets⟩ := (hin none type).2 ⟨hstored, hmeans⟩
      exact ⟨⟨type, none, htype, Bool.eq_false_iff.2 hwide, hm⟩, hmeets⟩

/-- What a selection holds: stored objects, and under which keys. -/
def Holds (c : Cluster) (selected : Selected) (isMeant : Manifest → Prop) : Prop :=
  selected.IsStored c
    ∧ ∀ k, FiniteMap.contains selected k = true ↔ ∃ m, c.object? k = some m ∧ isMeant m

theorem holds_nil : Holds c [] fun _ => False :=
  ⟨fun _ h => (nomatch h), fun k => by simp [FiniteMap.contains]⟩

theorem Holds.mono {selected : Selected} {P P' : Manifest → Prop} (h : Holds c selected P)
    (hiff : ∀ m, P m ↔ P' m) : Holds c selected P' :=
  ⟨h.1, fun k => (h.2 k).trans (exists_congr fun m => and_congr_right fun _ => hiff m)⟩

/-- Including found objects. -/
theorem Holds.including {selected : Selected} {P P' : Manifest → Prop} (hc : c.Keyed)
    (h : Holds c selected P) {found : List Manifest}
    (hfound : ∀ m, m ∈ found ↔ c.object? m.key = some m ∧ P' m) :
    Holds c (selected.including found) fun m => P m ∨ P' m := by
  refine ⟨h.1.including fun m hm => ((hfound m).1 hm).1, fun k => ?_⟩
  rw [Selected.contains_including, h.2]
  constructor
  · rintro (⟨m, hm, hp⟩ | ⟨m, hmem, rfl⟩)
    · exact ⟨m, hm, .inl hp⟩
    · obtain ⟨hm, hp⟩ := (hfound m).1 hmem
      exact ⟨m, hm, .inr hp⟩
  · rintro ⟨m, hm, hp | hp⟩
    · exact .inl ⟨m, hm, hp⟩
    · have hkey := hc.key_eq hm
      subst hkey
      exact .inr ⟨m, (hfound m).2 ⟨hm, hp⟩, rfl⟩

/-- The manifests of a selection. -/
theorem Holds.mem_map_iff {found : Selected} {P : Manifest → Prop} (hc : c.Keyed)
    (hfound : Holds c found P) : m ∈ found.map (·.2) ↔ c.object? m.key = some m ∧ P m := by
  rw [List.mem_map]
  constructor
  · rintro ⟨⟨k, n⟩, hmem, rfl⟩
    have hn : c.object? k = some n := hfound.1 _ hmem
    have hkey := hc.key_eq hn
    subst hkey
    obtain ⟨m, hm, hp⟩ := (hfound.2 n.key).1 (FiniteMap.contains_iff_exists_mem.2 ⟨n, hmem⟩)
    rw [hn, Option.some.injEq] at hm
    exact ⟨hn, hm ▸ hp⟩
  · rintro ⟨hm, hp⟩
    obtain ⟨n, hmem, hn⟩ := hfound.1.contains_iff.1 ((hfound.2 m.key).2 ⟨m, hm, hp⟩)
    rw [hm, Option.some.injEq] at hn
    exact ⟨(m.key, n), hmem, hn.symm⟩

/-- Merging another selection. -/
theorem Holds.merging {all found : Selected} {P P' : Manifest → Prop} (hc : c.Keyed)
    (hall : Holds c all P) (hfound : Holds c found P') :
    Holds c (all.including (found.map (·.2))) fun m => P m ∨ P' m :=
  hall.including hc fun _ => hfound.mem_map_iff hc

/-- Without expressions no test ends by an overflow. -/
theorem not_stopsAt_of_isPlain {s : Selector} (hs : s.IsPlain) (name : String) :
    ¬ c.StopsAt now s name := by
  have hgoes : ∀ m, ¬ Overflows now [] m := fun m h => by cases h
  rintro (⟨type, -, -, -, m, -, hstop⟩ | ⟨m, -, hstop⟩)
  · rw [hs.2] at hstop
    exact hgoes m hstop
  · rw [hs.1] at hstop
    exact hgoes m hstop

/-- What is gathered from a cluster with objects under their own keys is stored. -/
theorem Gathers.holds (hc : c.Filed) {found : Selected} {P : Manifest → Prop}
    (h : Gathers found fun m => c.object? m.key = some m ∧ P m) : Holds c found P := by
  refine ⟨fun p hp => ?_, fun k => (h.contains_iff k).trans ?_⟩
  · obtain ⟨⟨hm, -⟩, hkey⟩ := h.sound p hp
    rw [hkey]
    exact hm
  · constructor
    · rintro ⟨m, ⟨hm, hp⟩, rfl⟩
      exact ⟨m, hm, hp⟩
    · rintro ⟨m, hm, hp⟩
      have hkey := hc.key_eq hm
      exact ⟨m, ⟨hkey.symm ▸ hm, hp⟩, hkey⟩

/-- **Selection.**  A selector finds the stored objects that it means. -/
theorem select_gathers (hc : c.Filed) (now : Instant) (s : Selector) :
    Run.Settles (select now s) c (∃ name ∈ names s.objects.type, c.StopsAt now s name)
      fun found => Gathers found fun m => c.object? m.key = some m ∧ c.Means now s m := by
  refine (select_settles c now s).mono fun found hfound => hfound.mono fun m => ?_
  simp only [considers_iff hc, Means]
  exact ⟨fun ⟨name, hname, hm, hmeans⟩ => ⟨hm, name, hname, hmeans⟩,
    fun ⟨hm, name, hname, hmeans⟩ => ⟨name, hname, hm, hmeans⟩⟩

theorem select_reads (hc : c.Keyed) (s : Selector) (hT : T → s.IsPlain) :
    Run.Reads T (select now s) c fun found => Holds c found (c.Means now s) :=
  .of_settles (select_gathers hc.filed now s)
    (fun h ⟨name, _, hstop⟩ => not_stopsAt_of_isPlain (hT h) name hstop)
    fun _ hfound => hfound.holds hc.filed

/-- Entries that are inserted one by one under their own keys are included. -/
theorem Selected.foldl_insert_eq (hc : c.Keyed) {found : Selected} (hfound : found.IsStored c)
    (all : Selected) :
    found.foldl (fun all (p : ObjectKey × Manifest) => FiniteMap.insert all p.1 p.2) all
      = all.including (found.map (·.2)) := by
  induction found generalizing all with
  | nil => rfl
  | cons p found ih =>
      have hkey := hc.key_eq (hfound p List.mem_cons_self)
      rw [List.foldl_cons, List.map_cons, including_cons, hkey]
      exact ih (fun q hq => hfound q (List.mem_cons_of_mem _ hq)) _

theorem selectAny_reads (hc : c.Keyed) (selectors : List Selector)
    (hT : T → ∀ s ∈ selectors, s.IsPlain) {selected : Selected}
    {P : Manifest → Prop} (hselected : Holds c selected P) :
    Run.Reads T (selectAny now selectors selected) c fun all =>
      Holds c all fun m => P m ∨ c.MeansAny now selectors m := by
  induction selectors generalizing selected P with
  | nil => exact .of_pure (hselected.mono fun m => by simp [MeansAny])
  | cons s selectors ih =>
      unfold selectAny
      refine .bind (select_reads hc s fun h => hT h s List.mem_cons_self) fun found hfound => ?_
      have hmerged := hselected.merging hc hfound
      rw [← Selected.foldl_insert_eq hc hfound.1] at hmerged
      have hrest := ih (fun h s' hs' => hT h s' (List.mem_cons_of_mem _ hs')) hmerged
      refine hrest.mono fun all hall => hall.mono fun m => ?_
      simp only [MeansAny, List.mem_cons, exists_eq_or_imp]
      exact or_assoc

/-- What a test on keys leaves of a selection. -/
theorem Holds.filter {selected : Selected} {P P' : Manifest → Prop} (hc : c.Keyed)
    (h : Holds c selected P) (test : ObjectKey → Bool)
    (htest : ∀ m, c.object? m.key = some m → (test m.key = true ↔ P' m)) :
    Holds c (selected.filter fun p => test p.1) fun m => P m ∧ P' m := by
  refine ⟨fun p hp => h.1 p (List.mem_filter.1 hp).1, fun k => ?_⟩
  rw [Selected.contains_filter, h.2]
  constructor
  · rintro ⟨⟨m, hm, hp⟩, hk⟩
    have hkey := hc.key_eq hm
    subst hkey
    exact ⟨m, hm, hp, (htest m hm).1 hk⟩
  · rintro ⟨m, hm, hp, hp'⟩
    have hkey := hc.key_eq hm
    subst hkey
    exact ⟨⟨m, hm, hp⟩, (htest m hm).2 hp'⟩

/-- A stored object is in a selection when it is meant. -/
theorem Holds.contains_key {selected : Selected} {P : Manifest → Prop} (h : Holds c selected P)
    (hm : c.object? m.key = some m) : FiniteMap.contains selected m.key = true ↔ P m := by
  rw [h.2]
  constructor
  · rintro ⟨n, hn, hp⟩
    rw [hm, Option.some.injEq] at hn
    exact hn ▸ hp
  · exact fun hp => ⟨m, hm, hp⟩

/-- What a rule, or a group of rules, selects and excludes. -/
structure Selects (c : Cluster) (found : RuleSelection) (included excluded : Manifest → Prop) :
    Prop where
  included : Holds c found.included included
  excluded : Holds c found.excluded excluded

/-- **Rules.**  A rule includes what its inclusions mean and its exclusions do not, and sets apart
what both mean. -/
theorem selectRule_reads (hc : c.Keyed) (r : Rule) (hT : T → r.IsPlain) :
    Run.Reads T (selectRule now r) c fun found =>
      Selects c found (fun m => c.Includes now r m ∧ ¬ c.Excludes now r m)
        (fun m => c.Includes now r m ∧ c.Excludes now r m) := by
  unfold selectRule
  refine .bind (selectAny_reads hc r.inclusions (fun h => (hT h).1) holds_nil)
    fun included hincluded => ?_
  refine .bind (selectAny_reads hc r.exclusions (fun h => (hT h).2) holds_nil)
    fun excluded hexcluded => ?_
  have hincluded' : Holds c included (c.Includes now r) :=
    hincluded.mono fun m => by rw [false_or, Includes]
  have hexcluded' : Holds c excluded (c.Excludes now r) :=
    hexcluded.mono fun m => by rw [false_or, Excludes]
  refine .of_pure ⟨?_, ?_⟩
  · show Holds c (included.filter fun p => !FiniteMap.contains excluded p.1) _
    refine hincluded'.filter hc (fun k => !FiniteMap.contains excluded k) fun m hm => ?_
    rw [Bool.not_eq_true', ← hexcluded'.contains_key hm, Bool.not_eq_true]
  · show Holds c (included.filter fun p => FiniteMap.contains excluded p.1) _
    exact hincluded'.filter hc (fun k => FiniteMap.contains excluded k)
      fun m hm => hexcluded'.contains_key hm

theorem selectGroup_reads (hc : c.Keyed) (rules : List Rule) (hT : T → ∀ r ∈ rules, r.IsPlain)
    {all : RuleSelection} {P Q : Manifest → Prop} (hall : Selects c all P Q) :
    Run.Reads T (selectGroup now rules all) c fun found =>
      Selects c found (fun m => P m ∨ ∃ r ∈ rules, c.Includes now r m ∧ ¬ c.Excludes now r m)
        (fun m => Q m ∨ ∃ r ∈ rules, c.Includes now r m ∧ c.Excludes now r m) := by
  induction rules generalizing all P Q with
  | nil => exact .of_pure ⟨hall.included.mono fun m => by simp, hall.excluded.mono fun m => by simp⟩
  | cons r rules ih =>
      unfold selectGroup
      refine .bind (selectRule_reads hc r fun h => hT h r List.mem_cons_self) fun found hfound => ?_
      have hmerged : Selects c
          { included := all.included.including (found.included.map (·.2))
            excluded := all.excluded.including (found.excluded.map (·.2)) } _ _ :=
        ⟨hall.included.merging hc hfound.included, hall.excluded.merging hc hfound.excluded⟩
      have hnext := ih (fun h r' hr' => hT h r' (List.mem_cons_of_mem _ hr')) hmerged
      refine hnext.mono fun all' hall' => ⟨hall'.included.mono fun m => ?_,
        hall'.excluded.mono fun m => ?_⟩
      · simp only [List.mem_cons, exists_eq_or_imp]
        exact or_assoc
      · simp only [List.mem_cons, exists_eq_or_imp]
        exact or_assoc

end Selection

end Slumber
