import Slumber.Proofs.Transition.Exclusions
import Slumber.Proofs.Transition.Keeping

/-!
# When autoscalers cannot be listed

A cluster may refuse to list the autoscalers of a namespace for a while, and nothing else. Rules
then select the same objects as before, apart from autoscalers. But nothing stands in for an object
of that namespace any more: a transition acts upon the object itself.

* `Cluster.refusing` — a cluster that refuses some listings, and those only;
* `Cluster.HidesAutoscalers`, `Cluster.OnlyHidesAutoscalers` — what is refused;
* `OnlyHidesAutoscalers.isTarget_iff` — other objects are selected as before;
* `reaches_of_hides`, `reaches_cases` — which objects are acted upon.
-/

namespace Slumber

open Cluster Selection Manifest

namespace Cluster

variable {c c' : Cluster} {refused : FiniteMap String String} {now : Instant} {rules : List Rule}
  {m target : Manifest} {ns : String} {k : ObjectKey}

/-- The cluster that refuses these listings. -/
def refusing (c : Cluster) (refused : FiniteMap String String) : Cluster :=
  { c with refusedLists := refused }

@[simp] theorem object?_refusing (c : Cluster) (refused : FiniteMap String String)
    (k : ObjectKey) : (c.refusing refused).object? k = c.object? k := rfl

theorem findType?_refusing (c : Cluster) (refused : FiniteMap String String) (name : String) :
    (c.refusing refused).findType? name = c.findType? name := rfl

theorem Keyed.refusing (hc : c.Keyed) (refused : FiniteMap String String) :
    (c.refusing refused).Keyed :=
  hc.of_objects_eq rfl rfl

theorem Alike.refusing (h : Alike c c') (refused : FiniteMap String String) :
    Alike (c.refusing refused) (c'.refusing refused) :=
  ⟨h.types_eq, rfl, h.objects⟩

/-- The autoscalers of a namespace cannot be listed. -/
def HidesAutoscalers (c : Cluster) (ns : String) : Prop :=
  ∃ type, c.findType? "hpa" = some type ∧ ¬ c.Lists (some ns) type

/-- No listings are refused but those of autoscalers, nor that of the namespaces. -/
structure OnlyHidesAutoscalers (c : Cluster) : Prop where
  others : ∀ ns, ∀ type ∈ c.types, type.kind.kind ≠ autoscalerKind → c.Lists ns type
  namespaces : ∀ type, c.findType? "namespaces" = some type → c.Lists none type

theorem Alike.hidesAutoscalers_iff (h : Alike c c') :
    c'.HidesAutoscalers ns ↔ c.HidesAutoscalers ns := by
  unfold HidesAutoscalers Lists
  rw [h.refusedLists_eq, h.findType?_eq]

theorem Alike.onlyHidesAutoscalers (h : Alike c c') (hc : c.OnlyHidesAutoscalers) :
    c'.OnlyHidesAutoscalers where
  others := by
    intro ns type htype hkind
    exact h.lists (hc.others ns type (h.types_eq ▸ htype) hkind)
  namespaces := by
    intro type htype
    rw [h.findType?_eq] at htype
    exact h.lists (hc.namespaces type htype)

theorem not_hidesAutoscalers_of_refusedLists (h : c.refusedLists = []) :
    ¬ c.HidesAutoscalers ns :=
  fun ⟨type, _, hrefused⟩ => hrefused (lists_of_refusedLists h _ type)

theorem onlyHidesAutoscalers_of_refusedLists (h : c.refusedLists = []) : c.OnlyHidesAutoscalers :=
  ⟨fun ns type _ _ => lists_of_refusedLists h ns type,
    fun type _ => lists_of_refusedLists h none type⟩

/-! ### Selection -/

theorem kind_key (m : Manifest) : m.key.kind = m.kind := by
  show (ObjectKind.ofApiVersion m.apiVersion m.kind).kind = m.kind
  unfold ObjectKind.ofApiVersion
  split <;> rfl

namespace OnlyHidesAutoscalers

theorem meansNamespace (h : (c.refusing refused).OnlyHidesAutoscalers) {s : NamespaceSelector}
    (hc : c.MeansNamespace now s ns) : (c.refusing refused).MeansNamespace now s ns := by
  unfold MeansNamespace at hc ⊢
  split at hc
  · rename_i hnamed
    rw [if_pos hnamed]
    exact hc
  · rename_i hnamed
    rw [if_neg hnamed]
    obtain ⟨type, htype, -, hfound⟩ := hc
    exact ⟨type, htype, h.namespaces type htype, hfound⟩

theorem meansIn (h : (c.refusing refused).OnlyHidesAutoscalers) (hm : m.isAutoscaler = false)
    {ns : Option String} {type : ResourceType} (htype : type ∈ c.types) {s : ObjectSelector}
    (hc : c.MeansIn now ns type s m) : (c.refusing refused).MeansIn now ns type s m := by
  obtain ⟨hpass, hc⟩ := hc
  refine ⟨hpass, ?_⟩
  split at hc
  · rename_i hunnamed
    rw [if_pos hunnamed]
    refine ⟨h.others ns type htype fun hkind => ?_, hc.2⟩
    obtain ⟨-, hmkind, -⟩ := key_of_isListed hc.2
    have hauto : m.isAutoscaler = true :=
      decide_eq_true ((kind_key m).symm.trans (hmkind.trans hkind))
    rw [hm] at hauto
    cases hauto
  · rename_i hnamed
    rw [if_neg hnamed]
    exact hc

/-- What a selector means apart from autoscalers, it still means. -/
theorem means (h : (c.refusing refused).OnlyHidesAutoscalers) (hm : m.isAutoscaler = false)
    {s : Selector} (hc : c.Means now s m) : (c.refusing refused).Means now s m := by
  obtain ⟨name, hname, type, htype, hc⟩ := hc
  have hserved : type ∈ c.types := List.mem_of_find?_eq_some htype
  refine ⟨name, hname, type, htype, ?_⟩
  split at hc
  · rename_i hnamespaced
    rw [if_pos hnamespaced]
    obtain ⟨ns, hns, hin⟩ := hc
    exact ⟨ns, h.meansNamespace hns, h.meansIn hm hserved hin⟩
  · rename_i hwide
    rw [if_neg hwide]
    exact h.meansIn hm hserved hc

/-- **Other objects are selected as before.**  If two clusters differ only in the listings of
autoscalers that they refuse, then rules act upon the same objects of other kinds in both. -/
theorem isTarget_iff (hc : c.OnlyHidesAutoscalers) (h : (c.refusing refused).OnlyHidesAutoscalers)
    (hm : m.isAutoscaler = false) :
    c.IsTarget now rules m ↔ (c.refusing refused).IsTarget now rules m := by
  -- Either cluster is the other one with other refusals.
  have hback : ((c.refusing refused).refusing c.refusedLists).OnlyHidesAutoscalers := hc
  have hsame : ∀ selectors, c.MeansAny now selectors m
      ↔ (c.refusing refused).MeansAny now selectors m := fun selectors =>
    ⟨fun ⟨s, hs, hmeans⟩ => ⟨s, hs, h.means hm hmeans⟩,
      fun ⟨s, hs, hmeans⟩ => ⟨s, hs, hback.means hm hmeans⟩⟩
  unfold IsTarget IsIncluded IsSetApart Includes Excludes
  simp only [hsame]

end OnlyHidesAutoscalers

/-! ### What stands in -/

/-- Nothing stands in for an object in whose namespace no autoscalers can be listed. -/
theorem standIn_of_hides (h : c.HidesAutoscalers m.namespaceName) : c.standIn m = m := by
  obtain ⟨type, htype, hrefused⟩ := h
  have hnone : c.autoscalersIn m.namespaceName = [] := by
    refine List.eq_nil_iff_forall_not_mem.2 fun a ha => hrefused ?_
    unfold autoscalersIn at ha
    rw [htype] at ha
    exact (mem_list_iff.1 ha).1
  unfold standIn
  rw [hnone]
  split <;> rfl

theorem autoscalersIn_refusing (hc : ¬ c.HidesAutoscalers ns)
    (h : ¬ (c.refusing refused).HidesAutoscalers ns) :
    (c.refusing refused).autoscalersIn ns = c.autoscalersIn ns := by
  unfold autoscalersIn
  rw [findType?_refusing]
  cases htype : c.findType? "hpa" with
  | none => rfl
  | some type =>
      have hfree : c.Lists (some ns) type := by
        by_contra hrefused
        exact hc ⟨type, htype, hrefused⟩
      have hfree' : (c.refusing refused).Lists (some ns) type := by
        by_contra hrefused
        exact h ⟨type, htype, hrefused⟩
      unfold Lists at hfree hfree'
      simp only [Cluster.list, hfree, hfree']
      rfl

/-- Where autoscalers can be listed, the same ones stand in. -/
theorem standIn_refusing (hc : ¬ c.HidesAutoscalers m.namespaceName)
    (h : ¬ (c.refusing refused).HidesAutoscalers m.namespaceName) :
    (c.refusing refused).standIn m = c.standIn m := by
  unfold standIn
  rw [autoscalersIn_refusing hc h]

/-! ### What is acted upon -/

/-- The rules act upon the object of a key, or upon what stands in for it. -/
def Selects (c : Cluster) (rules : List Rule) (k : ObjectKey) : Prop :=
  ∃ now m, c.object? k = some m ∧ c.IsTarget now rules m

/-- A rule sets the object of a key apart. -/
def SetsApart (c : Cluster) (rules : List Rule) (k : ObjectKey) : Prop :=
  ∃ now m, c.object? k = some m ∧ c.IsSetApart now rules m

theorem Alike.selects (h : Alike c c') (hrules : ∀ r ∈ rules, r.IsPlain) (hc : c.Selects rules k) :
    c'.Selects rules k := by
  obtain ⟨now, m, hm, htarget⟩ := hc
  obtain ⟨m', hm', hsame⟩ := h.object? hm
  exact ⟨now, m', hm', (h.isTarget_iff hrules hsame).1 htarget⟩

theorem Alike.setsApart (h : Alike c c') (hrules : ∀ r ∈ rules, r.IsPlain)
    (hc : c.SetsApart rules k) : c'.SetsApart rules k := by
  obtain ⟨now, m, hm, hapart⟩ := hc
  obtain ⟨m', hm', hsame⟩ := h.object? hm
  exact ⟨now, m', hm', (h.isSetApart_iff hrules hsame).1 hapart⟩

theorem reaches_iff (hc : c.Keyed) (hrules : ∀ r ∈ rules, r.IsPlain) (now : Instant) :
    c.Reaches rules k ↔ ∃ target, c.object? target.key = some target
      ∧ c.IsTarget now rules target ∧ (c.standIn target).key = k := by
  constructor
  · rintro ⟨m, hm, rfl⟩
    obtain ⟨target, hstored, htarget, rfl⟩ := (canScale_iff hc hrules now).1 hm
    exact ⟨target, hstored, htarget, rfl⟩
  · rintro ⟨target, hstored, htarget, rfl⟩
    exact ⟨_, (canScale_iff hc hrules now).2 ⟨target, hstored, htarget, rfl⟩, rfl⟩

/-- A selected autoscaler is acted upon itself. -/
theorem reaches_of_isAutoscaler (hc : c.Keyed) (hrules : ∀ r ∈ rules, r.IsPlain)
    (hm : c.object? m.key = some m) (hauto : m.isAutoscaler = true)
    (hselected : c.Selects rules m.key) : c.Reaches rules m.key := by
  obtain ⟨now, m', hm', htarget⟩ := hselected
  rw [hm, Option.some.injEq] at hm'
  subst hm'
  refine (reaches_iff hc hrules now).2 ⟨m, hm, htarget, ?_⟩
  rw [standIn, if_pos (.inl hauto)]

/-- An object that is selected while nothing is refused is acted upon itself when the autoscalers of
its namespace cannot be listed. -/
theorem reaches_of_hides (hc : c.Keyed) (hrules : ∀ r ∈ rules, r.IsPlain)
    (hfree : c.refusedLists = []) (h : (c.refusing refused).OnlyHidesAutoscalers)
    (hm : c.object? m.key = some m) (hauto : m.isAutoscaler = false)
    (hselected : c.Selects rules m.key)
    (hhides : (c.refusing refused).HidesAutoscalers m.namespaceName) :
    (c.refusing refused).Reaches rules m.key := by
  obtain ⟨now, m', hm', htarget⟩ := hselected
  rw [hm, Option.some.injEq] at hm'
  subst hm'
  have htarget' := ((onlyHidesAutoscalers_of_refusedLists hfree).isTarget_iff h hauto).1 htarget
  refine (reaches_iff (hc.refusing refused) hrules now).2 ⟨m, hm, htarget', ?_⟩
  rw [standIn_of_hides hhides]

/-- What is acted upon while listings are refused would be acted upon in any case, or it is selected
itself: an autoscaler, or an object whose autoscalers cannot be listed. -/
theorem reaches_cases (hc : c.Keyed) (hrules : ∀ r ∈ rules, r.IsPlain)
    (hfree : c.refusedLists = []) (h : (c.refusing refused).OnlyHidesAutoscalers)
    (hm : c.object? m.key = some m) (hreached : (c.refusing refused).Reaches rules m.key) :
    c.Reaches rules m.key ∨ (∃ now, (c.refusing refused).IsTarget now rules m)
      ∧ (m.isAutoscaler = true
        ∨ m.isAutoscaler = false ∧ (c.refusing refused).HidesAutoscalers m.namespaceName) := by
  obtain ⟨target, hstored, htarget, hstand⟩ :=
    (reaches_iff (hc.refusing refused) hrules ⟨0, 0⟩).1 hreached
  -- What is acted upon itself is the object.
  have hitself : (c.refusing refused).standIn target = target → target = m := by
    intro hsame
    rw [hsame] at hstand
    rw [object?_refusing, hstand, hm, Option.some.injEq] at hstored
    exact hstored.symm
  cases hauto : target.isAutoscaler with
  | true =>
      obtain rfl := hitself (by rw [standIn, if_pos (.inl hauto)])
      exact .inr ⟨⟨_, htarget⟩, .inl hauto⟩
  | false =>
      by_cases hhides : (c.refusing refused).HidesAutoscalers target.namespaceName
      · obtain rfl := hitself (standIn_of_hides hhides)
        exact .inr ⟨⟨_, htarget⟩, .inr ⟨hauto, hhides⟩⟩
      · have hshown : ¬ c.HidesAutoscalers target.namespaceName :=
          not_hidesAutoscalers_of_refusedLists hfree
        have htarget' :=
          ((onlyHidesAutoscalers_of_refusedLists hfree).isTarget_iff h hauto).2 htarget
        refine .inl ((reaches_iff hc hrules ⟨0, 0⟩).2 ⟨target, hstored, htarget', ?_⟩)
        rw [← standIn_refusing hshown hhides, hstand]

/-- What is selected while listings are refused is selected in any case, unless a rule then sets it
apart. -/
theorem isTarget_of_refusing (hfree : c.refusedLists = []) (hapart : ¬ c.IsSetApart now rules m)
    (htarget : (c.refusing refused).IsTarget now rules m) : c.IsTarget now rules m := by
  have hdegraded : Degraded c (c.refusing refused) m.key :=
    ⟨hfree, rfl, rfl, fun _ _ _ _ _ => rfl⟩
  obtain ⟨⟨r, hr, ⟨s, hs, hmeans⟩, -⟩, -⟩ := htarget
  have hincludes : c.Includes now r m := ⟨s, hs, hdegraded.means_of_means hmeans⟩
  exact ⟨⟨r, hr, hincludes, fun hexcludes => hapart ⟨r, hr, hincludes, hexcludes⟩⟩, hapart⟩

end Cluster

end Slumber
