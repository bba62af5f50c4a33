import Slumber.Proofs.Transition.Groups

/-!
# Exclusions when listings are refused

A refused listing makes a selector find less, never more. An exclusion that needs a refused listing
may therefore lose its effect, and the object it is to protect may be acted upon. This file says
which exclusions keep theirs: an object stays protected when no rule includes it any more, or when
the selectors that set it apart need no refused listing for it.

* `Cluster.NeedsListing` — the listings that a selector needs to find an object;
* `Cluster.Degraded` — a cluster that refuses listings beside one that does not;
* `Degraded.means_of_means`, `Degraded.means_of_spared` — a selector finds no more, and as much if
  what it needs is not refused;
* `GroupRun` — the transition of one group in the execution of a spec;
* `exclusion_kept` — which objects stay protected.
-/

namespace Slumber

open Cluster Selection Text

namespace Cluster

/-! ### What a selector needs -/

/-- The selector needs a listing to find the object of a key, given by the namespace, a slash and
the kind: the listing of the objects, unless they are named, and that of the namespaces, unless they
are named. -/
def NeedsListing (c : Cluster) (s : Selector) (k : ObjectKey) (listing : String) : Prop :=
  ∃ name ∈ names s.objects.type, ∃ type, c.findType? name = some type
    ∧ type.kind.group = k.group ∧ type.kind.kind = k.kind
    ∧ (names s.objects.name = []
          ∧ listing = (if type.namespaced then k.namespaceName else "") ++ "/" ++ k.kind
        ∨ type.namespaced = true ∧ ¬ NamesNamespaces s.namespaces
          ∧ ∃ type', c.findType? "namespaces" = some type' ∧ listing = "" ++ "/" ++ type'.kind.kind)

/-- No listing is refused that the selector needs to find the object of a key. -/
def Spares (c : Cluster) (s : Selector) (k : ObjectKey) : Prop :=
  ∀ listing, c.NeedsListing s k listing → c.refusedLists.find? listing = none

/-- Beside `c`, which refuses no listing, `d` serves the same and holds the same under a key and in
the place of namespaces. -/
structure Degraded (c d : Cluster) (k : ObjectKey) : Prop where
  refusedLists_eq : c.refusedLists = []
  types_eq : d.types = c.types
  object : d.object? k = c.object? k
  namespaces : ∀ type, c.findType? "namespaces" = some type → ∀ k' : ObjectKey,
    k'.group = type.kind.group → k'.kind = type.kind.kind → d.object? k' = c.object? k'

namespace Degraded

variable {c d : Cluster} {now : Instant} {m : Manifest} {s : Selector}

theorem lists (h : Degraded c d m.key) (ns : Option String) (type : ResourceType) :
    c.Lists ns type :=
  lists_of_refusedLists h.refusedLists_eq ns type

theorem findType?_eq (h : Degraded c d m.key) (name : String) :
    d.findType? name = c.findType? name := by
  unfold findType?
  rw [h.types_eq]

theorem keyOf_eq (h : Degraded c d m.key) (ns : String) (kind : ObjectKind) (name : String) :
    d.keyOf ns kind name = c.keyOf ns kind name := by
  unfold keyOf
  rw [h.types_eq]

/-! ### Refused listings hide, and never show -/

/-- A selector means no namespace more. -/
theorem meansNamespace_of_meansNamespace (h : Degraded c d m.key) {s : NamespaceSelector}
    {ns : String} (hd : d.MeansNamespace now s ns) : c.MeansNamespace now s ns := by
  unfold MeansNamespace at hd ⊢
  split at hd
  · rename_i hnamed
    rw [if_pos hnamed]
    exact hd
  · rename_i hnamed
    rw [if_neg hnamed]
    obtain ⟨type, htype, -, n, hn, hlisted, hpass, hname⟩ := hd
    rw [h.findType?_eq] at htype
    obtain ⟨hgroup, hkind, -⟩ := key_of_isListed hlisted
    have hheld : c.object? n.key = some n := by
      rw [← h.namespaces type htype n.key hgroup hkind, hn]
    exact ⟨type, htype, h.lists none type, n, hheld, hlisted, hpass, hname⟩

theorem meansIn_of_meansIn (h : Degraded c d m.key) {ns : Option String} {type : ResourceType}
    {s : ObjectSelector} (hd : d.MeansIn now ns type s m) : c.MeansIn now ns type s m := by
  obtain ⟨hpass, hd⟩ := hd
  refine ⟨hpass, ?_⟩
  split at hd
  · rename_i hnone
    rw [if_pos hnone]
    exact ⟨h.lists ns type, hd.2⟩
  · rename_i hnamed
    rw [if_neg hnamed]
    obtain ⟨name, hname, hkey⟩ := hd
    exact ⟨name, hname, by rw [← h.keyOf_eq, hkey]⟩

/-- A selector means no object more. -/
theorem means_of_means (h : Degraded c d m.key) (hd : d.Means now s m) : c.Means now s m := by
  obtain ⟨name, hname, type, htype, hd⟩ := hd
  rw [h.findType?_eq] at htype
  refine ⟨name, hname, type, htype, ?_⟩
  split at hd
  · rename_i hnamespaced
    rw [if_pos hnamespaced]
    obtain ⟨ns, hns, hin⟩ := hd
    exact ⟨ns, h.meansNamespace_of_meansNamespace hns, h.meansIn_of_meansIn hin⟩
  · rename_i hwide
    rw [if_neg hwide]
    exact h.meansIn_of_meansIn hd

/-! ### What needs no refused listing is found -/

/-- The type of an object that is meant in a place. -/
theorem kind_of_meansIn {ns : Option String} {type : ResourceType} {s : ObjectSelector}
    (hin : c.MeansIn now ns type s m) :
    type.kind.group = m.key.group ∧ type.kind.kind = m.key.kind := by
  obtain ⟨-, hin⟩ := hin
  split at hin
  · obtain ⟨hgroup, hkind, -⟩ := key_of_isListed hin.2
    exact ⟨hgroup.symm, hkind.symm⟩
  · obtain ⟨name, -, hkey⟩ := hin
    rw [← hkey]
    exact ⟨rfl, rfl⟩

/-- The listing of the objects, if they are not named, is not refused. -/
theorem meansIn_of_spared (h : Degraded c d m.key) (hspared : d.Spares s m.key) {name : String}
    (hname : name ∈ names s.objects.type) {type : ResourceType}
    (htype : d.findType? name = some type) {ns : Option String}
    (hsome : type.namespaced = true → ∃ n, ns = some n)
    (hnone : type.namespaced = false → ns = none)
    (hin : c.MeansIn now ns type s.objects m) : d.MeansIn now ns type s.objects m := by
  have hkinds := kind_of_meansIn hin
  obtain ⟨hpass, hin⟩ := hin
  refine ⟨hpass, ?_⟩
  split at hin
  · rename_i hunnamed
    rw [if_pos hunnamed]
    obtain ⟨-, -, hns⟩ := key_of_isListed hin.2
    refine ⟨?_, hin.2⟩
    unfold Lists
    refine hspared _ ⟨name, hname, type, htype, hkinds.1, hkinds.2, .inl ⟨hunnamed, ?_⟩⟩
    rw [hkinds.2]
    cases hnamespaced : type.namespaced with
    | true =>
        obtain ⟨n, rfl⟩ := hsome hnamespaced
        rw [hns hnamespaced n rfl]
        rfl
    | false =>
        rw [hnone hnamespaced]
        rfl
  · rename_i hnamed
    rw [if_neg hnamed]
    obtain ⟨n, hn, hkey⟩ := hin
    exact ⟨n, hn, by rw [h.keyOf_eq, hkey]⟩

/-- The listing of the namespaces, if they are not named, is not refused. -/
theorem meansNamespace_of_spared (h : Degraded c d m.key) (hspared : d.Spares s m.key)
    {name : String} (hname : name ∈ names s.objects.type) {type : ResourceType}
    (htype : d.findType? name = some type) (hnamespaced : type.namespaced = true) {ns : String}
    (hin : c.MeansIn now (some ns) type s.objects m) (hns : c.MeansNamespace now s.namespaces ns) :
    d.MeansNamespace now s.namespaces ns := by
  unfold MeansNamespace at hns ⊢
  split at hns
  · rename_i hnamed
    rw [if_pos hnamed]
    exact hns
  · rename_i hnamed
    rw [if_neg hnamed]
    obtain ⟨type', htype', -, n, hn, hlisted, hpass, hnsname⟩ := hns
    have hfound : d.findType? "namespaces" = some type' := by rw [h.findType?_eq, htype']
    obtain ⟨hgroup, hkind, -⟩ := key_of_isListed hlisted
    have hkinds := kind_of_meansIn hin
    refine ⟨type', hfound, ?_, n, ?_, hlisted, hpass, hnsname⟩
    · exact hspared _ ⟨name, hname, type, htype, hkinds.1, hkinds.2,
        .inr ⟨hnamespaced, hnamed, type', hfound, rfl⟩⟩
    · rw [h.namespaces type' htype' n.key hgroup hkind, hn]

/-- A selector still means an object if it needs no refused listing for it. -/
theorem means_of_spared (h : Degraded c d m.key) (hc : c.Means now s m)
    (hspared : d.Spares s m.key) : d.Means now s m := by
  obtain ⟨name, hname, type, htype, hc⟩ := hc
  have htype' : d.findType? name = some type := by rw [h.findType?_eq, htype]
  refine ⟨name, hname, type, htype', ?_⟩
  split at hc
  · rename_i hnamespaced
    rw [if_pos hnamespaced]
    obtain ⟨ns, hns, hin⟩ := hc
    exact ⟨ns, h.meansNamespace_of_spared hspared hname htype' hnamespaced hin hns,
      h.meansIn_of_spared hspared hname htype' (fun _ => ⟨ns, rfl⟩)
        (fun hfalse => by rw [hnamespaced] at hfalse; cases hfalse) hin⟩
  · rename_i hwide
    rw [if_neg hwide]
    exact h.meansIn_of_spared hspared hname htype' (fun htrue => absurd htrue hwide)
      (fun _ => rfl) hc

end Degraded

end Cluster

/-! ### Protected objects -/

/-- The selector means the object without failures, and needs no refused listing for it. -/
def Cluster.Degraded.MeansSafely (c d : Cluster) (now : Instant) (s : Selector) (m : Manifest) :
    Prop :=
  c.Means now s m ∧ d.Spares s m.key

/-- What has to hold for an object to stay protected when listings are refused. `c` is the cluster
that the group of rules finds if no listing is refused, and `d` the one that it finds in fact. -/
structure StaysProtected (now : Instant) (rules : List Rule) (t : Transition) (c d : Cluster)
    (m : Manifest) : Prop where
  /-- The object is stored as it would be. -/
  object : d.object? m.key = c.object? m.key
  /-- The namespaces are stored as they would be. -/
  namespaces : ∀ type, c.findType? "namespaces" = some type → ∀ k : ObjectKey,
    k.group = type.kind.group → k.kind = type.kind.kind → d.object? k = c.object? k
  /-- If a rule still includes the object, then some rule that does has an exclusion that means it
  and needs no refused listing. -/
  exclusions : ∀ r ∈ rules, d.Includes now r m →
    ∃ r' ∈ rules, d.Includes now r' m ∧ ∃ e ∈ r'.exclusions, Degraded.MeansSafely c d now e m
  /-- The object stands in for no other object that the group acts upon, unless by deleting. -/
  no_standIn : t ≠ .delete → ∀ target, d.object? target.key = some target →
    d.IsTarget now rules target → target.key ≠ m.key → (d.standIn target).key ≠ m.key

/-- An object that stays protected is no target. -/
theorem StaysProtected.not_isTarget {now : Instant} {rules : List Rule} {t : Transition}
    {c d : Cluster} {m : Manifest} (hsafe : StaysProtected now rules t c d m)
    (h : Degraded c d m.key) : ¬ d.IsTarget now rules m := by
  rintro ⟨⟨r, hr, hincludes, -⟩, hapart⟩
  obtain ⟨r', hr', hincludes', e, he, hmeant, hspared⟩ := hsafe.exclusions r hr hincludes
  exact hapart ⟨r', hr', hincludes', e, he, h.means_of_spared hmeant hspared⟩

/-- **Exclusions.**  Take the same group of rules in two executions of a spec on a keyed cluster,
one in which no listing is refused and one in which some are. Whatever the first reports as excluded
by a rule is a stored object that a rule sets apart, and the second neither patches nor deletes it,
if it stays protected: if the group finds it and the namespaces as they would be, if it is no longer
included or else still set apart by what needs no refused listing, and if it does not stand in for
another object. -/
theorem exclusion_kept {now : Instant} {s : Spec} {isActive : Bool} {range : Option Nat}
    {h : History} {c : Cluster} (hc : c.Keyed) (refused : FiniteMap String String)
    {before : List (Action × List Rule)} {action : Action} {rules : List Rule} {t : Transition}
    {c₁ c₂ d₁ d₂ : Cluster} {report report' : Report}
    (hrun : GroupRun now s isActive range h { c with refusedLists := [] } before action rules t
      c₁ report c₂)
    (hrun' : GroupRun now s isActive range h { c with refusedLists := refused } before action rules
      t d₁ report' d₂)
    {o : ExcludedObject} (ho : o ∈ report.excluded) (hreason : o.reason = excludedByRule) :
    ∃ m, c₁.object? m.key = some m ∧ o.key = m.key.text ∧ c₁.IsSetApart now rules m
      ∧ (StaysProtected now rules t c₁ d₁ m → TouchesOnly (· ≠ m.key) d₁ d₂) := by
  obtain ⟨reports, hbefore⟩ := hrun.before_ok
  obtain ⟨reports', hbefore'⟩ := hrun'.before_ok
  have hfree : ({ c with refusedLists := [] } : Cluster).Keyed := hc.of_objects_eq rfl rfl
  have hrefusing : ({ c with refusedLists := refused } : Cluster).Keyed := hc.of_objects_eq rfl rfl
  obtain ⟨hc₁, htouches⟩ := executeGroups_ok hfree hbefore
  obtain ⟨hd₁, htouches'⟩ := executeGroups_ok hrefusing hbefore'
  obtain ⟨m, hm, hkey, hapart⟩ := isSetApart_of_reported hc₁ hrun.group_ok ho hreason
  refine ⟨m, hm, hkey, hapart, fun hsafe => ?_⟩
  have hdegraded : Degraded c₁ d₁ m.key :=
    ⟨htouches.refusedLists_eq, htouches'.types_eq.trans htouches.types_eq.symm, hsafe.object,
      hsafe.namespaces⟩
  have hnot := hsafe.not_isTarget hdegraded
  have hm' : d₁.object? m.key = some m := hsafe.object.trans hm
  obtain ⟨all, -, hselects, -, rfl⟩ := executeGroup_ok hd₁ hrun'.group_ok
  obtain ⟨steps, -, hran⟩ := executeGroup_ran hd₁ hselects t s.storeDeleted h
  refine hran.touches.mono fun k hk => ?_
  obtain ⟨target, htarget, rfl⟩ := hran.targeted k hk
  obtain ⟨hstored, histarget⟩ := (mem_targets_iff hd₁ hselects).1 htarget
  have hne : target.key ≠ m.key := by
    intro heq
    rw [heq, hm', Option.some.injEq] at hstored
    exact hnot (hstored ▸ histarget)
  unfold Transition.standIn
  split
  · exact hne
  · rename_i ht
    exact hsafe.no_standIn ht target hstored histarget hne

/-! ### An instance -/

/-- A workload with three replicas and a label. -/
def keptWorkload : Manifest :=
  ⟨.obj
    [("apiVersion", .str "apps/v1"), ("kind", .str "Deployment"),
     ("metadata", .obj
       [("labels", .obj [("keep", .str "yes")]), ("name", .str "web"),
        ("namespace", .str "prod")]),
     ("spec", .obj [("replicas", .int 3)])]⟩

/-- An autoscaler that governs the workload. -/
def keptAutoscaler : Manifest :=
  ⟨.obj
    [("apiVersion", .str "autoscaling/v2"), ("kind", .str "HorizontalPodAutoscaler"),
     ("metadata", .obj [("name", .str "web"), ("namespace", .str "prod")]),
     ("spec", .obj
       [("minReplicas", .int 2),
        ("scaleTargetRef", .obj [("kind", .str "Deployment"), ("name", .str "web")])])]⟩

/-- A namespace, which may itself claim to be in one. -/
def keptNamespace (place : List (String × Json)) : Manifest :=
  ⟨.obj
    [("apiVersion", .str "v1"), ("kind", .str "Namespace"),
     ("metadata", .obj (("name", .str "prod") :: place))]⟩

/-- A cluster with some objects. -/
def clusterOf (ms : List Manifest) : Cluster :=
  { Cluster.standard with objects := ms.map fun m => (m.key, m) }

/-- The objects of some types in the namespace `prod`, by name, or by labels without one. -/
def inProd (type name : String) (labels : List String := []) (fields : List String := []) :
    Selector :=
  ⟨{ type, name, labels, fields }, { name := "prod" }⟩

/-- A rule that excludes a workload by its name. -/
def byName : Rule :=
  { inclusions := [inProd "deployment" "web"], exclusions := [inProd "deployment" "web"] }

theorem staysProtected_byName (c d : Cluster) (htypes : c.types = Cluster.standard.types)
    (hobjects : d.objects = c.objects) :
    StaysProtected ⟨0, 0⟩ [byName] .delete c d keptWorkload := by
  have hsame : ∀ k, d.object? k = c.object? k := fun k => by rw [object?, hobjects, object?]
  have htype : c.findType? "deployment" = some (served "apps" "v1" "Deployment" "deployments") := by
    rw [findType?, htypes]
    decide +kernel
  have hkey : c.keyOf "prod" (served "apps" "v1" "Deployment" "deployments").kind "web"
      = keptWorkload.key := by
    rw [keyOf, htypes]
    decide +kernel
  refine ⟨hsame _, fun _ _ k _ _ => hsame k, ?_, fun hne => absurd rfl hne⟩
  intro r hr hincludes
  refine ⟨r, hr, hincludes, ?_⟩
  rw [List.mem_singleton] at hr
  subst hr
  refine ⟨inProd "deployment" "web", List.mem_singleton_self _, ?_, ?_⟩
  · refine ⟨"deployment", by decide +kernel, _, htype, "prod", ?_, rfl, ?_⟩
    · rw [MeansNamespace, if_pos (by decide +kernel)]
      decide +kernel
    · rw [if_neg (by decide +kernel)]
      exact ⟨"web", by decide +kernel, hkey⟩
  · rintro listing ⟨name, -, type, -, -, -, ⟨hunnamed, -⟩ | ⟨-, hunnamed, -⟩⟩
    · exact absurd hunnamed (by decide +kernel)
    · exact absurd (by decide +kernel) hunnamed

/-- Runs the groups before a group, and then the group. -/
def runGroup (now : Instant) (s : Spec) (h : History) (c : Cluster)
    (before : List (Action × List Rule)) (rules : List Rule) (t : Transition) :
    Except Overflow (Cluster × Report × Cluster) := do
  let (_, c₁) ← executeGroups now s true none h before c
  let (report, c₂) ← executeGroup now s t rules h c₁
  return (c₁, report, c₂)

theorem groupRun_of_runGroup {now : Instant} {s : Spec} {h : History} {c c₁ c₂ : Cluster}
    {before after : List (Action × List Rule)} {action : Action} {rules : List Rule}
    {t : Transition} {report : Report}
    (hgroups : ruleGroups s = before ++ (action, rules) :: after)
    (ht : Transition.resolve action true s none = some t)
    (hrun : runGroup now s h c before rules t = .ok (c₁, report, c₂)) :
    GroupRun now s true none h c before action rules t c₁ report c₂ := by
  unfold runGroup at hrun
  cases hbefore : executeGroups now s true none h before c with
  | error e =>
      rw [hbefore] at hrun
      cases hrun
  | ok p =>
      rw [hbefore] at hrun
      cases hgroup : executeGroup now s t rules h p.2 with
      | error e =>
          replace hrun : (executeGroup now s t rules h p.2 >>= fun q =>
            Except.ok (p.2, q.1, q.2)) = .ok (c₁, report, c₂) := hrun
          rw [hgroup] at hrun
          cases hrun
      | ok q =>
          replace hrun : (executeGroup now s t rules h p.2 >>= fun q =>
            Except.ok (p.2, q.1, q.2)) = .ok (c₁, report, c₂) := hrun
          rw [hgroup] at hrun
          cases hrun
          exact ⟨⟨after, hgroups⟩, ht, ⟨p.1, hbefore⟩, hgroup⟩

/-- An exclusion by name needs no listing, so the workload is kept when listings of workloads are
refused. -/
theorem exclusion_kept_by_name :
    ∃ c₁ report c₂ d₁ report' d₂,
      GroupRun ⟨0, 0⟩ { rules := [byName], action := .delete } true none ⟨[], 10⟩
        { clusterOf [keptWorkload] with refusedLists := [] } [] .delete [byName] .delete
        c₁ report c₂
      ∧ GroupRun ⟨0, 0⟩ { rules := [byName], action := .delete } true none ⟨[], 10⟩
        { clusterOf [keptWorkload] with refusedLists := [("prod/Deployment", "refused")] } []
        .delete [byName] .delete d₁ report' d₂
      ∧ ⟨keptWorkload.key.text, excludedByRule⟩ ∈ report.excluded
      ∧ StaysProtected ⟨0, 0⟩ [byName] .delete c₁ d₁ keptWorkload
      ∧ TouchesOnly (· ≠ keptWorkload.key) d₁ d₂ := by
  have hc : (clusterOf [keptWorkload]).Keyed := by decide +kernel
  have hreport : (match runGroup ⟨0, 0⟩ { rules := [byName], action := .delete } ⟨[], 10⟩
      { clusterOf [keptWorkload] with refusedLists := [] } [] [byName] .delete with
    | .ok (_, report, _) => report.excluded.contains ⟨keptWorkload.key.text, excludedByRule⟩
    | .error _ => false) = true := by decide +kernel
  have hends : (runGroup ⟨0, 0⟩ { rules := [byName], action := .delete } ⟨[], 10⟩
      { clusterOf [keptWorkload] with refusedLists := [("prod/Deployment", "refused")] } []
      [byName] .delete).isOk = true := by decide +kernel
  have hgroups : ruleGroups { rules := [byName], action := .delete }
      = [] ++ (.delete, [byName]) :: [] := by decide
  split at hreport
  · rename_i c₁ report c₂ hfree
    cases hrefused : runGroup ⟨0, 0⟩ { rules := [byName], action := .delete } ⟨[], 10⟩
        { clusterOf [keptWorkload] with refusedLists := [("prod/Deployment", "refused")] } []
        [byName] .delete with
    | error e =>
        rw [hrefused] at hends
        cases hends
    | ok p =>
        obtain ⟨d₁, report', d₂⟩ := p
        have hrun := groupRun_of_runGroup hgroups rfl hfree
        have hrun' := groupRun_of_runGroup hgroups rfl hrefused
        have ho := List.contains_iff_mem.1 hreport
        obtain ⟨_, hbefore⟩ := hrun.before_ok
        obtain ⟨_, hbefore'⟩ := hrun'.before_ok
        cases hbefore
        cases hbefore'
        obtain ⟨m, hm, hkey, -, hkept⟩ := exclusion_kept hc _ hrun hrun' ho rfl
        -- The reported key is that of the workload.
        have hsame : m = keptWorkload := by
          have hheld : (clusterOf [keptWorkload]).object? keptWorkload.key = some keptWorkload := by
            decide +kernel
          have heq := hc.text_injective hheld hm hkey
          have hm' : (clusterOf [keptWorkload]).object? m.key = some m := hm
          rw [← heq, hheld, Option.some.injEq] at hm'
          exact hm'.symm
        subst hsame
        refine ⟨_, _, _, _, _, _, hrun, hrun', ho, ?_, hkept ?_⟩
        · exact staysProtected_byName _ _ rfl rfl
        · exact staysProtected_byName _ _ rfl rfl
  · cases hreport

/-! ### Why each condition is needed -/

/-- A group reports an object as excluded by a rule when no listing is refused, and patches or
deletes it when some are. -/
def LosesExclusion (now : Instant) (s : Spec) (h : History) (c : Cluster)
    (refused : FiniteMap String String) (before : List (Action × List Rule)) (action : Action)
    (rules : List Rule) (t : Transition) (k : ObjectKey) : Prop :=
  ∃ c₁ report c₂ d₁ report' d₂,
    GroupRun now s true none h { c with refusedLists := [] } before action rules t c₁ report c₂
    ∧ GroupRun now s true none h { c with refusedLists := refused } before action rules t
        d₁ report' d₂
    ∧ ⟨k.text, excludedByRule⟩ ∈ report.excluded ∧ ¬ TouchesOnly (· ≠ k) d₁ d₂

/-- Checks that an exclusion is lost. -/
def losesExclusion (now : Instant) (s : Spec) (h : History) (c : Cluster)
    (refused : FiniteMap String String) (before : List (Action × List Rule)) (rules : List Rule)
    (t : Transition) (k : ObjectKey) : Bool :=
  match runGroup now s h { c with refusedLists := [] } before rules t,
      runGroup now s h { c with refusedLists := refused } before rules t with
  | .ok (_, report, _), .ok (d₁, _, d₂) =>
    report.excluded.contains ⟨k.text, excludedByRule⟩
      && ((d₂.patches.drop d₁.patches.length).any (·.key == k)
        || (d₂.deletions.drop d₁.deletions.length).any (· == k))
  | _, _ => false

theorem losesExclusion_of_check {now : Instant} {s : Spec} {h : History} {c : Cluster}
    {refused : FiniteMap String String} {before after : List (Action × List Rule)}
    {action : Action} {rules : List Rule} {t : Transition} {k : ObjectKey}
    (hgroups : ruleGroups s = before ++ (action, rules) :: after)
    (ht : Transition.resolve action true s none = some t)
    (hcheck : losesExclusion now s h c refused before rules t k = true) :
    LosesExclusion now s h c refused before action rules t k := by
  unfold losesExclusion at hcheck
  split at hcheck
  · rename_i c₁ report c₂ d₁ report' d₂ hfree hrefused
    rw [Bool.and_eq_true, List.contains_iff_mem] at hcheck
    obtain ⟨hreported, htouched⟩ := hcheck
    refine ⟨c₁, report, c₂, d₁, report', d₂, groupRun_of_runGroup hgroups ht hfree,
      groupRun_of_runGroup hgroups ht hrefused, hreported, fun htouches => ?_⟩
    obtain ⟨patches, hpatches, hother⟩ := htouches.patches
    obtain ⟨deletions, hdeletions, hother'⟩ := htouches.deletions
    rw [hpatches, hdeletions, List.drop_left, List.drop_left, Bool.or_eq_true, List.any_eq_true,
      List.any_eq_true] at htouched
    rcases htouched with ⟨p, hp, hkey⟩ | ⟨k', hk, hkey⟩
    · exact hother p hp (by simpa using hkey)
    · exact hother' k' hk (by simpa using hkey)
  · cases hcheck

/-- A rule that excludes a named workload by its label. -/
def byLabel : Rule :=
  { inclusions := [inProd "deployment" "web"],
    exclusions := [inProd "deployment" "" ["keep=yes"]] }

/-- A rule that excludes an autoscaler but not its workload. -/
def butAutoscaler : Rule :=
  { inclusions := [inProd "deployment,hpa" ""], exclusions := [inProd "hpa" "web"] }

/-- A rule that acts upon every workload. -/
def everyWorkload : Rule :=
  { inclusions := [inProd "deployment" ""] }

/-- A rule that deletes a workload unless it has annotations. -/
def unlessAnnotated : Rule :=
  { inclusions := [inProd "deployment" "web"],
    exclusions := [inProd "deployment" "web" [] ["metadata.annotations"]],
    action := some .delete }

/-- A rule that excludes a namespace by its name. -/
def butNamespace : Rule :=
  { inclusions := [inProd "namespace" ""], exclusions := [inProd "namespace" "prod"] }

/-- An exclusion is lost, in this order: by a refused listing that it needs; for an autoscaler that
stands in for a workload; by an earlier group that finds less and so leaves an object without the
annotation for which it would be excluded; and in a cluster that is not keyed, where one namespace
is addressed by the name of another. -/
theorem exclusions_lost :
    LosesExclusion ⟨0, 0⟩ { rules := [byLabel] } ⟨[], 10⟩ (clusterOf [keptWorkload])
        [("prod/Deployment", "refused")] [] .hibernate [byLabel] .hibernate keptWorkload.key
    ∧ LosesExclusion ⟨0, 0⟩ { rules := [butAutoscaler] } ⟨[], 10⟩
        (clusterOf [keptWorkload, keptAutoscaler]) [("prod/Pod", "refused")] [] .hibernate
        [butAutoscaler] .hibernate keptAutoscaler.key
    ∧ LosesExclusion ⟨0, 0⟩ { rules := [everyWorkload, unlessAnnotated] } ⟨[], 10⟩
        (clusterOf [keptWorkload]) [("prod/Deployment", "refused")] [(.hibernate, [everyWorkload])]
        .delete [unlessAnnotated] .delete keptWorkload.key
    ∧ LosesExclusion ⟨0, 0⟩ { rules := [butNamespace], action := .delete } ⟨[], 10⟩
        (clusterOf [keptNamespace [], keptNamespace [("namespace", .str "x")]])
        [("prod/Pod", "refused")] [] .delete [butNamespace] .delete (keptNamespace []).key := by
  refine ⟨?_, ?_, ?_, ?_⟩
  · exact losesExclusion_of_check (by decide : ruleGroups _ = _ ++ _ :: []) rfl (by decide +kernel)
  · exact losesExclusion_of_check (by decide : ruleGroups _ = _ ++ _ :: []) rfl (by decide +kernel)
  · exact losesExclusion_of_check (by decide : ruleGroups _ = _ ++ _ :: []) rfl (by decide +kernel)
  · exact losesExclusion_of_check (by decide : ruleGroups _ = _ ++ _ :: []) rfl (by decide +kernel)

end Slumber
