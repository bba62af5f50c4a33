import Slumber.Proofs.Controller.Looks
import Slumber.Proofs.Controller.Unattended
import Slumber.Time.ClockHistory

/-!
# Counts come back

A workload is put to sleep itself while its autoscaler cannot be listed, and by way of its
autoscaler otherwise. Each of the two keeps its own count, and a look that wakes objects up gives it
back to those that it acts upon. So an object that a look put to sleep comes back with the first
look that acts upon it again and wakes it up. That need not be the next one that wakes objects up:
once the autoscaler can be listed again, nothing acts upon the workload any more.

* `Turn.Finds` — a look that finds given objects and cannot list some autoscalers;
* `Turn.Finds.reaches_iff_hides` — when such a look acts upon a governed object;
* `counts_return` — the main theorem;
* `counts_not_returned` — runs in which a count does not come back.
-/

namespace Slumber

open Cluster Manifest Selection

/-! ### Looks that cannot list autoscalers -/

section

variable {c : Cluster} {x : Turn} {m : Manifest}

/-- The look finds the objects of `c`, which refuses nothing, and cannot list some autoscalers. -/
structure Turn.Finds (x : Turn) (c : Cluster) : Prop where
  alike : Alike (c.refusing x.before.refusedLists) x.before
  hides : x.before.OnlyHidesAutoscalers
  plain : ∀ g ∈ ruleGroups x.spec, ∀ r ∈ g.2, r.IsPlain

/-- A look that is refused nothing finds the objects of `c` in a cluster that is alike. -/
theorem Turn.Finds.alike_of_free (h : x.Finds c) (hfree : c.refusedLists = [])
    (hcalm : x.before.refusedLists = []) : Alike c x.before := by
  have halike := h.alike
  rw [hcalm, ← hfree] at halike
  exact halike

/-- What a look acts upon that the last look does not act upon: it is selected itself, as an
autoscaler or because its autoscalers cannot be listed. -/
theorem Turn.Finds.cases_of_reaches {last : Turn} (h : x.Finds c) (hlast : last.Finds c)
    (hc : c.Keyed) (hfree : c.refusedLists = []) (hcalm : last.before.refusedLists = [])
    (hgroups : ruleGroups x.spec = ruleGroups last.spec) (hm : c.object? m.key = some m)
    (hnot : ¬ last.Reaches m.key) (hreached : x.Reaches m.key) :
    m.isAutoscaler = false ∧ x.before.HidesAutoscalers m.namespaceName
      ∨ m.isAutoscaler = true ∧ last.SetsApart m.key := by
  have halike := hlast.alike_of_free hfree hcalm
  obtain ⟨g, hg, hreached⟩ := hreached
  have hg' : g ∈ ruleGroups last.spec := hgroups ▸ hg
  have hplain := h.plain g hg
  have hnot' : ¬ c.Reaches g.2 m.key :=
    fun hreaches => hnot ⟨g, hg', (halike.reaches_iff hc hplain).1 hreaches⟩
  rcases reaches_cases hc hplain hfree (h.alike.symm.onlyHidesAutoscalers h.hides) hm
      ((h.alike.reaches_iff (hc.refusing _) hplain).2 hreached) with
    hreaches | ⟨⟨now, htarget⟩, hauto | ⟨hauto, hhides⟩⟩
  · exact absurd hreaches hnot'
  · -- An autoscaler that no rule sets apart would be acted upon by the last look.
    refine .inr ⟨hauto, by_contra fun hfreed => hnot' ?_⟩
    have hapart : ¬ c.IsSetApart now g.2 m := fun hapart =>
      hfreed ⟨g, hg', halike.setsApart hplain ⟨now, m, hm, hapart⟩⟩
    exact reaches_of_isAutoscaler hc hplain hm hauto
      ⟨now, m, hm, isTarget_of_refusing hfree hapart htarget⟩
  · exact .inl ⟨hauto, h.alike.hidesAutoscalers_iff.2 hhides⟩

/-- **Governed objects.**  If the last look selects an object but does not act upon it, then every
other look with the same groups acts upon it if and only if the autoscalers of its namespace cannot
be listed. -/
theorem Turn.Finds.reaches_iff_hides {last : Turn} (h : x.Finds c) (hlast : last.Finds c)
    (hc : c.Keyed) (hfree : c.refusedLists = []) (hcalm : last.before.refusedLists = [])
    (hgroups : ruleGroups x.spec = ruleGroups last.spec) (hm : c.object? m.key = some m)
    (hselected : last.Selects m.key) (hnot : ¬ last.Reaches m.key) :
    x.Reaches m.key ↔ x.before.HidesAutoscalers m.namespaceName := by
  have halike := hlast.alike_of_free hfree hcalm
  obtain ⟨g, hg, hselected⟩ := hselected
  have hg' : g ∈ ruleGroups x.spec := hgroups ▸ hg
  have hplain := h.plain g hg'
  have hselected' : c.Selects g.2 m.key := halike.symm.selects hplain hselected
  have hauto : m.isAutoscaler = false := by
    rw [← Bool.not_eq_true]
    exact fun htrue => hnot ⟨g, hg, (halike.reaches_iff hc hplain).1
      (reaches_of_isAutoscaler hc hplain hm htrue hselected')⟩
  constructor
  · intro hreached
    rcases h.cases_of_reaches hlast hc hfree hcalm hgroups hm hnot hreached with
      ⟨-, hhides⟩ | ⟨htrue, -⟩
    · exact hhides
    · rw [hauto] at htrue
      cases htrue
  · intro hhides
    exact ⟨g, hg', (h.alike.reaches_iff (hc.refusing _) hplain).1
      (reaches_of_hides hc hplain hfree (h.alike.symm.onlyHidesAutoscalers h.hides) hm hauto
        hselected' (h.alike.hidesAutoscalers_iff.1 hhides))⟩

end

/-! ### Computing what looks select -/

/-- The objects that the rules of a look select, before others stand in for them. -/
def Turn.targets (x : Turn) : List Manifest :=
  (ruleGroups x.spec).flatMap fun g =>
    match selectGroup x.now g.2 {} x.before with
    | .ok (all, _) => all.targets
    | .error _ => []

theorem Turn.of_mem_targets {x : Turn} (hc : x.before.Keyed) {target : Manifest}
    (htarget : target ∈ x.targets) :
    x.Selects target.key ∧ x.Reaches (x.before.standIn target).key := by
  obtain ⟨g, hg, hmem⟩ := List.mem_flatMap.1 htarget
  split at hmem
  · rename_i all c' hall
    obtain ⟨rfl, hselects⟩ :=
      (selectGroup_start_reads (T := False) hc (fun h => h.elim) x.now).of_ok all c' hall
    obtain ⟨hstored, histarget⟩ := (mem_targets_iff hc hselects).1 hmem
    exact ⟨⟨g, hg, x.now, target, hstored, histarget⟩,
      ⟨g, hg, _, ⟨x.now, all, hall, target, hmem, rfl⟩, rfl⟩⟩
  · cases hmem

section

variable [ZoneDatabase] {floor : Duration} {c : Cluster} {h : Hibernator} {turns : List Turn}
  {x : Turn} {k : ObjectKey}

theorem Watched.selects_of_targets (hwatched : Watched floor c h turns) (hx : x ∈ turns)
    (htargets : x.targets.any (·.key == k) = true) : x.Selects k := by
  obtain ⟨target, htarget, hkey⟩ := List.any_eq_true.1 htargets
  rw [← beq_iff_eq.1 hkey]
  exact (Turn.of_mem_targets (hwatched.alone.keyed hwatched.taken hwatched.keyed x hx) htarget).1

theorem Watched.reaches_of_targets (hwatched : Watched floor c h turns) (hx : x ∈ turns)
    (htargets : x.targets.any (fun m => (x.before.standIn m).key == k) = true) : x.Reaches k := by
  obtain ⟨target, htarget, hkey⟩ := List.any_eq_true.1 htargets
  rw [← beq_iff_eq.1 hkey]
  exact (Turn.of_mem_targets (hwatched.alone.keyed hwatched.taken hwatched.keyed x hx) htarget).2

end

/-! ### Looks at a shop -/

section

open scoped Time.ClockHistory

/-- The autoscalers of the shop cannot be listed. -/
def shopHidden : FiniteMap String String :=
  [("shop/HorizontalPodAutoscaler", "busy")]

/-- Only kinds that end like that of autoscalers are hidden. -/
theorem lists_of_shopHidden {c : Cluster} (hrefused : c.refusedLists = shopHidden)
    (ns : Option String) {type : ResourceType} {e : Char}
    (hend : type.kind.kind.toList.getLast? = some e) (he : e ≠ 'r') : c.Lists ns type := by
  have hne : "shop/HorizontalPodAutoscaler" ≠ ns.getD "" ++ "/" ++ type.kind.kind := by
    intro heq
    have hends := congrArg (fun s : String => s.toList.getLast?) heq
    simp only [String.toList_append, List.getLast?_append, hend, Option.some_or] at hends
    exact he (Option.some.inj hends).symm
  unfold Cluster.Lists
  rw [hrefused, shopHidden, FiniteMap.find?, if_neg hne]
  rfl

theorem onlyHidesAutoscalers_of_shop {c : Cluster} (htypes : c.types = Cluster.standard.types)
    (hrefused : c.refusedLists = [] ∨ c.refusedLists = shopHidden) : c.OnlyHidesAutoscalers := by
  rcases hrefused with hnone | hhidden
  · exact onlyHidesAutoscalers_of_refusedLists hnone
  refine ⟨fun ns type htype hkind => ?_, fun type htype => ?_⟩
  · have hends : ∀ type ∈ Cluster.standard.types, type.kind.kind ≠ autoscalerKind →
        type.kind.kind.toList.getLast?.any (· != 'r') = true := by decide +kernel
    obtain ⟨e, hend, he⟩ := (Option.any_eq_true _ _).1 (hends type (htypes ▸ htype) hkind)
    exact lists_of_shopHidden hhidden ns hend (by simpa using he)
  · unfold findType? at htype
    rw [htypes] at htype
    have hfound : type = Cluster.served "" "v1" "Namespace" "namespaces" false := by
      refine Option.some.inj (htype.symm.trans ?_)
      decide +kernel
    subst hfound
    exact lists_of_shopHidden (e := 'e') hhidden none rfl (by decide)

theorem hidesAutoscalers_of_shop {c : Cluster} (htypes : c.types = Cluster.standard.types)
    (hrefused : c.refusedLists = shopHidden) : c.HidesAutoscalers "shop" := by
  refine ⟨Cluster.served "autoscaling" "v2" "HorizontalPodAutoscaler" "horizontalpodautoscalers",
    ?_, ?_⟩
  · unfold findType?
    rw [htypes]
    decide +kernel
  · unfold Cluster.Lists
    rw [hrefused]
    decide +kernel

/-- A resource with these rules that has no status yet. -/
def shopSleeper (rules : List Rule) : Hibernator :=
  { sleeper with spec := { rules } }

/-- Looks at it that are an hour apart, at night or in the day, and may be unable to list
autoscalers. -/
def shopPlan (rules : List Rule) :
    Int → List (Bool × Bool) → List (Spec × Instant × FiniteMap String String)
  | _, [] => []
  | hour, (isNight, isHidden) :: rest =>
    ({ rules, forceActive := isNight, forceInactive := !isNight }, ⟨3600 * hour, 0⟩,
        if isHidden then shopHidden else [])
      :: shopPlan rules (hour + 1) rest

/-- The looks, if they can be taken. -/
def shopTurns (rules : List Rule) (c : Cluster) (plan : List (Bool × Bool)) : Option (List Turn) :=
  takeTurns ⟨61, 0⟩ ((shopPlan rules 0 plan).map fun p => (p.1, p.2.1, (·.refusing p.2.2)))
    (shopSleeper rules) c

/-- The looks have these rules, and find what a shop serves and refuses. -/
def inShop (rules : List Rule) (turns : List Turn) : Bool :=
  turns.all fun x => x.spec.rules == rules && x.spec.action == .hibernate
    && x.before.types == Cluster.standard.types
    && (x.before.refusedLists == [] || x.before.refusedLists == shopHidden)

/-- There are such looks, and they pass a check. -/
def shopPasses (rules : List Rule) (c : Cluster) (plan : List (Bool × Bool))
    (check : List Turn → Bool) : Bool :=
  match shopTurns rules c plan with
  | some turns => inShop rules turns && check turns
  | none => false

/-- Looks that are taken while nobody else writes. -/
theorem unattended_of_takeTurns {floor : Duration}
    {plan : List (Spec × Instant × FiniteMap String String)} {h : Hibernator} {c : Cluster}
    {turns : List Turn}
    (hrun : takeTurns floor (plan.map fun p => (p.1, p.2.1, (·.refusing p.2.2))) h c = some turns)
    (hhides : ∀ x ∈ turns, x.before.OnlyHidesAutoscalers) : Unattended c turns := by
  induction plan generalizing h c turns with
  | nil =>
      cases hrun
      exact .nil c
  | cons p plan ih =>
      obtain ⟨x, rest, rfl, hbefore, -, hrest⟩ := takeTurns_cons hrun
      refine .cons ?_ (hhides x List.mem_cons_self)
        (ih hrest fun y hy => hhides y (List.mem_cons_of_mem x hy))
      rw [hbefore]
      rfl

theorem exists_shopTurns (rules : List Rule) {c : Cluster} (plan : List (Bool × Bool))
    (check : List Turn → Bool) (hc : c.Keyed) (haccepts : c.refusedPatches = [])
    (hpasses : shopPasses rules c plan check = true) :
    ∃ turns, Watched ⟨61, 0⟩ c (shopSleeper rules) turns
      ∧ (∀ x ∈ turns, x.before.types = Cluster.standard.types) ∧ check turns = true := by
  unfold shopPasses at hpasses
  split at hpasses
  · rename_i turns hrun
    obtain ⟨hshop, hcheck⟩ := Bool.and_eq_true_iff.1 hpasses
    have hfound : ∀ x ∈ turns, (x.spec.rules = rules ∧ x.spec.action = .hibernate)
        ∧ x.before.types = Cluster.standard.types ∧ x.before.OnlyHidesAutoscalers := by
      intro x hx
      have hone := List.all_eq_true.1 hshop x hx
      simp only [Bool.and_eq_true, Bool.or_eq_true, beq_iff_eq] at hone
      exact ⟨hone.1.1, hone.1.2, onlyHidesAutoscalers_of_shop hone.1.2 hone.2⟩
    exact ⟨turns, ⟨hc, haccepts, rfl, turns_of_takeTurns hrun, fun x hx => (hfound x hx).1,
      unattended_of_takeTurns hrun fun x hx => (hfound x hx).2.2⟩,
      fun x hx => (hfound x hx).2.1, hcheck⟩
  · cases hpasses

/-- Two nights, in the first of which the autoscalers are hidden. -/
def areTwoNights : List Turn → Bool
  | [sleep, wake, sleep', wake'] =>
    decide (¬ sleep.after.AwakeAt sampleWorkload.key 3
      ∧ wake.Wakes ∧ wake.before.refusedLists = shopHidden
      ∧ ¬ sleep'.after.AwakeAt sampleAutoscaler.key 2 ∧ sleep'.before.refusedLists = []
      ∧ wake'.Wakes ∧ wake'.before.refusedLists = [])
    && wake'.targets.any (·.key == sampleWorkload.key)
    && wake'.targets.any fun m => (wake'.before.standIn m).key == sampleAutoscaler.key
  | _ => false

end

/-! ### Counts come back -/

section

variable [ZoneDatabase] {floor : Duration} {c : Cluster} {h : Hibernator} {turns : List Turn}
  {last : Turn} {m : Manifest} {n : Int32}

theorem Watched.isGentle (hwatched : Watched floor c h turns) (hspec : h.spec.IsGentle) :
    ∀ x ∈ turns, x.spec.IsGentle := by
  intro x hx
  obtain ⟨hrules, haction⟩ := hwatched.same x hx
  exact ⟨haction ▸ hspec.action, hrules ▸ hspec.actions, hrules ▸ hspec.plain⟩

theorem Watched.ruleGroups_eq (hwatched : Watched floor c h turns) {x y : Turn} (hx : x ∈ turns)
    (hy : y ∈ turns) : ruleGroups x.spec = ruleGroups y.spec := by
  obtain ⟨hrules, haction⟩ := hwatched.same x hx
  obtain ⟨hrules', haction'⟩ := hwatched.same y hy
  exact ruleGroups_congr (hrules.trans hrules'.symm) (haction.trans haction'.symm)

/-- The invariant holds in the beginning. -/
theorem Watched.start (hwatched : Watched floor c h turns) (hawake : c.AwakeAt m.key n) :
    CountKept c m.key n h c := by
  refine ⟨.refl c, hwatched.accepts, hawake.keepsAt, ?_⟩
  unfold Hibernator.history
  rw [hwatched.fresh]
  exact .nil _

theorem Watched.finds (hwatched : Watched floor c h turns) (hspec : h.spec.IsGentle)
    (hawake : c.AwakeAt m.key n) (hn : 0 < n.toInt) : ∀ x ∈ turns, x.Finds (c.refusing []) := by
  intro x hx
  have hgentle := hwatched.isGentle hspec
  obtain ⟨hfinds, -⟩ :=
    (hwatched.start hawake).run hwatched.keyed hwatched.taken hwatched.alone hgentle hn
  exact ⟨(hfinds x hx).1, (hfinds x hx).2, fun g hg => ((hgentle x hx).groups g hg).2⟩

/-- Behind a look that wakes objects up an object is awake if the look acts upon it, or else if
every look that put it to sleep was followed by one that woke it up. -/
theorem Watched.awake (hwatched : Watched floor c h (turns ++ [last])) (hspec : h.spec.IsGentle)
    (hlast : last.Wakes) (hawake : c.AwakeAt m.key n) (hn : 0 < n.toInt)
    (hfollowed : ¬ last.Reaches m.key →
      Followed (fun x => x.Sleeps ∧ x.Reaches m.key) (fun y => y.Wakes ∧ y.Reaches m.key) turns) :
    last.after.AwakeAt m.key n := by
  obtain ⟨-, hends⟩ := (hwatched.start hawake).run hwatched.keyed hwatched.taken hwatched.alone
    (hwatched.isGentle hspec) hn
  have hleft : leftBy c (turns ++ [last]) = last.after := by
    rw [leftBy, List.foldl_append]
    rfl
  rw [hleft] at hends
  have hnever : ¬ (last.Sleeps ∧ last.Reaches m.key) := fun hslept => hlast.not_sleeps hslept.1
  refine hends (.inl hawake) ?_
  by_cases hreaches : last.Reaches m.key
  · exact .of_last ⟨hlast, hreaches⟩ hnever
  · exact (hfollowed hreaches).concat hnever

end

/-- **Counts come back.**  Take looks at a resource without a status, on a keyed cluster that
refuses no patches and only listings of autoscalers, to which nobody else writes. Let the statuses
be all stored, let the specs differ in other settings than the rules and the action only, and let
them delete nothing and use no expressions. If the last look wakes objects up and does nothing else,
then an object that had a positive count and no annotation in the beginning has that count again,
and no annotation,

* if the last look acts upon it;
* if the last look refuses nothing and selects the object, and every look that put objects to sleep
  or scaled them while the autoscalers of its namespace could not be listed was followed by one that
  woke objects up while they could not;
* if the last look refuses nothing, and the object is an autoscaler that no rule then sets apart;
* if every look that put it to sleep or scaled it was followed by one that woke it up. -/
theorem counts_return [ZoneDatabase] {floor : Duration} {c : Cluster} {h : Hibernator}
    {turns : List Turn} {last : Turn} (hwatched : Watched floor c h (turns ++ [last]))
    (hspec : h.spec.IsGentle) (hlast : last.Wakes) {m : Manifest}
    (hm : c.object? m.key = some m) (hfresh : m.IsUnmarked) {n : Int32}
    (hcount : m.replicaCount? = some n.toInt) (hn : 0 < n.toInt) :
    (last.Reaches m.key → last.after.AwakeAt m.key n)
    ∧ (last.before.refusedLists = [] → last.Selects m.key →
        Followed (fun x => x.Sleeps ∧ x.before.HidesAutoscalers m.namespaceName)
          (fun y => y.Wakes ∧ y.before.HidesAutoscalers m.namespaceName) turns →
        last.after.AwakeAt m.key n)
    ∧ (last.before.refusedLists = [] → m.isAutoscaler = true → ¬ last.SetsApart m.key →
        last.after.AwakeAt m.key n)
    ∧ (Followed (fun x => x.Sleeps ∧ x.Reaches m.key) (fun y => y.Wakes ∧ y.Reaches m.key) turns →
        last.after.AwakeAt m.key n) := by
  have hawake : c.AwakeAt m.key n := ⟨m, hm, hfresh, hcount⟩
  have hends := hwatched.awake hspec hlast hawake hn
  -- How the other looks compare to the last one.
  have hmem : last ∈ turns ++ [last] := List.mem_append_right _ (List.mem_singleton_self last)
  have hturn : ∀ x ∈ turns, x ∈ turns ++ [last] := fun x hx => List.mem_append_left _ hx
  have hfinds := hwatched.finds hspec hawake hn
  have hgroups := fun x hx => hwatched.ruleGroups_eq (hturn x hx) hmem
  have hfree := hwatched.keyed.refusing []
  refine ⟨fun hreaches => hends fun hnot => absurd hreaches hnot,
    fun hcalm hselected hfollowed => hends fun hnot => ?_,
    fun hcalm hauto hfreed => hends fun hnot => ?_, fun hfollowed => hends fun _ => hfollowed⟩
  · have hactsUpon := fun x hx => (hfinds x (hturn x hx)).reaches_iff_hides (hfinds last hmem)
      hfree rfl hcalm (hgroups x hx) hm hselected hnot
    refine hfollowed.mono (fun x hx hslept => ?_) fun y hy hwoke => ?_
    · exact ⟨hslept.1, (hactsUpon x hx).1 hslept.2⟩
    · exact ⟨hwoke.1, (hactsUpon y hy).2 hwoke.2⟩
  · -- No look acts upon such an autoscaler.
    intro x later hsuffix hslept
    have hx := hsuffix.subset List.mem_cons_self
    rcases (hfinds x (hturn x hx)).cases_of_reaches (hfinds last hmem) hfree rfl hcalm
      (hgroups x hx) hm hnot hslept.2 with ⟨hfalse, -⟩ | ⟨-, hapart⟩
    · rw [hauto] at hfalse
      cases hfalse
    · exact absurd hapart hfreed

open scoped Time.ClockHistory

/-- The workload is put to sleep itself in the first night, and by way of its autoscaler in the
second one. In the end both have their counts. -/
theorem counts_return_shop : ∃ sleep wake sleep' wake',
    Watched ⟨61, 0⟩ sampleCluster (shopSleeper [sampleRule]) ([sleep, wake, sleep'] ++ [wake'])
    ∧ (shopSleeper [sampleRule]).spec.IsGentle ∧ wake'.Wakes
    ∧ (∀ m ∈ [sampleWorkload, sampleAutoscaler],
        sampleCluster.object? m.key = some m ∧ m.IsUnmarked)
    ∧ sampleWorkload.replicaCount? = some (3 : Int32).toInt
    ∧ sampleAutoscaler.replicaCount? = some (2 : Int32).toInt
    ∧ ¬ sleep.after.AwakeAt sampleWorkload.key 3
    ∧ ¬ sleep'.after.AwakeAt sampleAutoscaler.key 2
    ∧ wake'.after.AwakeAt sampleWorkload.key 3 ∧ wake'.after.AwakeAt sampleAutoscaler.key 2 := by
  obtain ⟨turns, hwatched, htypes, hcheck⟩ := exists_shopTurns [sampleRule]
    [(true, true), (false, true), (true, false), (false, false)] areTwoNights sampleCluster_keyed
    rfl (by decide +kernel)
  unfold areTwoNights at hcheck
  split at hcheck
  · rename_i sleep wake sleep' wake'
    have hwatched' : Watched ⟨61, 0⟩ sampleCluster (shopSleeper [sampleRule])
      ([sleep, wake, sleep'] ++ [wake']) := hwatched
    simp only [Bool.and_eq_true, decide_eq_true_eq] at hcheck
    obtain ⟨⟨⟨hasleep, hwakes, hblind, hasleep', hcalm, hlast, hcalm'⟩, hselected⟩, hreached⟩ :=
      hcheck
    have hspec : (shopSleeper [sampleRule]).spec.IsGentle :=
      ⟨by decide, by decide, by decide⟩
    have hfresh : ∀ m ∈ [sampleWorkload, sampleAutoscaler],
        sampleCluster.object? m.key = some m ∧ m.IsUnmarked := by decide
    have hworkload := hfresh sampleWorkload (by simp)
    have hautoscaler := hfresh sampleAutoscaler (by simp)
    have hselected' := hwatched.selects_of_targets (by simp) hselected
    have hreached' := hwatched.reaches_of_targets (by simp) hreached
    -- The sleep without autoscalers was followed by a wake without them.
    have hfollowed : Followed (fun x => x.Sleeps ∧ x.before.HidesAutoscalers "shop")
        (fun y => y.Wakes ∧ y.before.HidesAutoscalers "shop") [sleep, wake, sleep'] := by
      refine .cons (fun _ => ⟨wake, List.mem_cons_self, hwakes, ?_⟩)
        (.cons (fun hslept => absurd hslept.1 hwakes.not_sleeps)
          (.cons (fun hslept => absurd hslept.2 ?_) .nil))
      · exact hidesAutoscalers_of_shop (htypes wake (by simp)) hblind
      · exact not_hidesAutoscalers_of_refusedLists hcalm
    refine ⟨sleep, wake, sleep', wake', hwatched', hspec, hlast, hfresh, by decide, by decide,
      hasleep, hasleep', ?_, ?_⟩
    · obtain ⟨-, hback, -⟩ := counts_return hwatched' hspec hlast hworkload.1 hworkload.2 (n := 3)
        (by decide) (by decide)
      exact hback hcalm' hselected' hfollowed
    · obtain ⟨hback, -⟩ := counts_return hwatched' hspec hlast hautoscaler.1 hautoscaler.2
        (n := 2) (by decide) (by decide)
      exact hback hreached'
  · cases hcheck

/-! ### Counts that do not come back -/

/-- Nobody has scaled the objects: each has a positive count, and no annotation. -/
def Cluster.IsPristine (c : Cluster) : Prop :=
  ∀ p ∈ c.objects, p.2.IsUnmarked
    ∧ p.2.replicaCount?.any (fun count => 0 < count ∧ count < 2 ^ 31) = true

instance (c : Cluster) : Decidable c.IsPristine :=
  inferInstanceAs (Decidable (∀ p ∈ c.objects, _))

/-- The look woke objects up, nothing was refused and nothing failed. -/
def Turn.IsSmooth (x : Turn) : Prop :=
  (∃ r ∈ x.tick.reports, r.action = .unhibernate) ∧ x.before.refusedLists = []
    ∧ ∀ r ∈ x.tick.reports, r.failures = 0

instance (x : Turn) : Decidable x.IsSmooth :=
  inferInstanceAs (Decidable (_ ∧ _))

/-- Looks with plain rules at objects that nobody has scaled, of which the last one is smooth. -/
structure EndsSmoothly (rules : List Rule) (c : Cluster) (turns : List Turn) (last : Turn) :
    Prop where
  watched : Watched ⟨61, 0⟩ c (shopSleeper rules) (turns ++ [last])
  plain : ∀ r ∈ rules, r.IsPlain
  pristine : c.IsPristine
  smooth : last.IsSmooth

/-- A second autoscaler of the workload. -/
def spareAutoscaler : Manifest :=
  ⟨.obj
    [("apiVersion", .str "autoscaling/v2"), ("kind", .str "HorizontalPodAutoscaler"),
     ("metadata", .obj
       [("labels", .obj [("keep", .str "yes")]), ("name", .str "web-spare"),
        ("namespace", .str "shop")]),
     ("spec", .obj
       [("minReplicas", .int 2),
        ("scaleTargetRef", .obj [("kind", .str "Deployment"), ("name", .str "web")])])]⟩

/-- A cluster with the workload and two autoscalers of it. -/
def spareCluster : Cluster :=
  { Cluster.standard with
    objects :=
      [(sampleWorkload.key, sampleWorkload), (sampleAutoscaler.key, sampleAutoscaler),
       (spareAutoscaler.key, spareAutoscaler)] }

/-- A rule that names the workload and the second autoscaler, and excludes autoscalers by a
label. -/
def spareRule : Rule :=
  { inclusions :=
      [{ objects := { type := "deployment", name := "web" }, namespaces := { name := "shop" } },
       { objects := { type := "hpa", name := "web-spare" }, namespaces := { name := "shop" } }]
    exclusions :=
      [{ objects := { type := "hpa", labels := ["keep=yes"] }, namespaces := { name := "shop" } }] }

/-- A rule for stateful sets, of which there are none. -/
def idleRule (action : Option Action) : Rule :=
  { inclusions := [{ objects := { type := "statefulset" }, namespaces := { name := "shop" } }]
    action }

/-- Two looks that select the workload as long as it is there. Behind the second one, which does
the given actions and is smooth, the object of a key is not awake. -/
structure EndsAsleep (rules : List Rule) (c : Cluster) (first last : Turn) (actions : List Action)
    (k : ObjectKey) (n : Int32) : Prop where
  smoothly : EndsSmoothly rules c [first] last
  selects : ∀ x ∈ [first, last],
    x.Selects sampleWorkload.key ∨ x.before.object? sampleWorkload.key = none
  actions_eq : last.tick.reports.map (·.action) = actions
  asleep : ¬ last.after.AwakeAt k n

/-- The same as a check. -/
def endsAsleep (actions : List Action) (k : ObjectKey) (n : Int32) : List Turn → Bool
  | [first, last] =>
    decide (last.IsSmooth ∧ last.tick.reports.map (·.action) = actions ∧ ¬ last.after.AwakeAt k n)
      && [first, last].all fun x => x.targets.any (·.key == sampleWorkload.key)
        || (x.before.object? sampleWorkload.key).isNone
  | _ => false

theorem exists_endsAsleep {rules : List Rule} {c : Cluster} (plan : List (Bool × Bool))
    {actions : List Action} {k : ObjectKey} {n : Int32} (hc : c.Keyed)
    (haccepts : c.refusedPatches = []) (hplain : ∀ r ∈ rules, r.IsPlain)
    (hpristine : c.IsPristine)
    (hpasses : shopPasses rules c plan (endsAsleep actions k n) = true) :
    ∃ first last, EndsAsleep rules c first last actions k n := by
  obtain ⟨turns, hwatched, -, hcheck⟩ := exists_shopTurns rules plan _ hc haccepts hpasses
  unfold endsAsleep at hcheck
  split at hcheck
  · rename_i first last
    rw [Bool.and_eq_true, decide_eq_true_eq] at hcheck
    obtain ⟨⟨hsmooth, hactions, hasleep⟩, hall⟩ := hcheck
    refine ⟨first, last, ⟨hwatched, hplain, hpristine, hsmooth⟩, fun x hx => ?_, hactions, hasleep⟩
    have hone := List.all_eq_true.1 hall x hx
    rw [Bool.or_eq_true, Option.isNone_iff_eq_none] at hone
    exact hone.imp_left fun htargets => hwatched.selects_of_targets hx htargets
  · cases hcheck

/-- **Counts that do not come back.**  In each of these runs the last look wakes objects up without
any failure, and an object that had its count in the beginning is not awake behind it:

* the workload was put to sleep while its autoscaler could not be listed, and the last look acts
  upon the autoscaler;
* another autoscaler of the workload was put to sleep while the autoscalers to be excluded could not
  be listed, and the last look excludes it;
* one rule wakes objects up while another one puts the workload to sleep;
* one rule deleted the workload. -/
theorem counts_not_returned :
    (∃ first last, EndsAsleep [sampleRule] sampleCluster first last [.unhibernate]
      sampleWorkload.key 3)
    ∧ governs spareAutoscaler sampleWorkload = true
    ∧ (∃ first last, EndsAsleep [spareRule] spareCluster first last [.unhibernate]
      spareAutoscaler.key 2)
    ∧ (∃ first last, EndsAsleep [sampleRule, idleRule (some .unhibernate)] loneCluster first last
      [.hibernate, .unhibernate] sampleWorkload.key 3)
    ∧ ∃ first last, EndsAsleep [{ sampleRule with action := some .delete }, idleRule none]
      loneCluster first last [.unhibernate] sampleWorkload.key 3 := by
  refine ⟨?_, by decide, ?_, ?_, ?_⟩
  · exact exists_endsAsleep [(true, true), (false, false)] sampleCluster_keyed rfl (by decide)
      (by decide) (by decide +kernel)
  · exact exists_endsAsleep [(true, true), (false, false)] (by decide) rfl (by decide) (by decide)
      (by decide +kernel)
  · exact exists_endsAsleep [(false, false), (true, false)] (by decide) rfl (by decide) (by decide)
      (by decide +kernel)
  · exact exists_endsAsleep [(true, false), (false, false)] (by decide) rfl (by decide) (by decide)
      (by decide +kernel)

end Slumber
