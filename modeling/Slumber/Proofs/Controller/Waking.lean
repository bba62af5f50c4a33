import Slumber.Proofs.Controller.Steps
import Slumber.Proofs.Transition.Waking
import Slumber.Time.ClockHistory

/-!
# Awake objects are left alone, or corrected

Once an object is awake, looks that put nothing to sleep and scale nothing leave it alone, as long
as others leave it with the number of replicas that the history records for it from before. The
history outlives the waking up. So when others give the object another number, the next look that
wakes it up puts the recorded one in place, until the bound on the history has dropped the record.

* `OthersSpare` — in between, others do not give the object the annotation;
* `Turn.spares` — one look;
* `awake_left_alone` — the main theorem;
* `awake_corrected` — an awake object whose number others have changed.
-/

namespace Slumber

open Cluster Manifest

/-- The look puts nothing to sleep and scales nothing. -/
def Turn.IsQuiet (x : Turn) : Prop :=
  ∀ r ∈ x.tick.reports, r.action ≠ .hibernate ∧ r.action ≠ .scale

/-- Between two looks, others do not give the object of a key the annotation, whatever else they do
to it. -/
def OthersSpare (k : ObjectKey) (x y : Turn) : Prop :=
  ∀ m', y.before.object? k = some m' → m'.IsUnmarked ∨ ∃ m, x.after.object? k = some m
    ∧ m'.annotation? replicasAnnotationKey = m.annotation? replicasAnnotationKey

/-- The object of a key has no annotation, if it is there. -/
def Cluster.Unmarked (c : Cluster) (k : ObjectKey) : Prop :=
  ∀ m, c.object? k = some m → m.IsUnmarked

theorem OthersSpare.unmarked {k : ObjectKey} {x y : Turn} (h : OthersSpare k x y)
    (hx : x.after.Unmarked k) : y.before.Unmarked k := by
  intro m' hm'
  rcases h m' hm' with hunmarked | ⟨m, hm, hsame⟩
  · exact hunmarked
  · exact hsame.trans (hx m hm)

section

variable [ZoneDatabase] {floor : Duration} {h : Hibernator} {x : Turn} {k : ObjectKey} {n : Int32}

/-- What a quiet look records gives an object no other count. -/
theorem Turn.newestCount?_resource
    (hlook : Slumber.tick (x.found h) floor x.now x.before = .ok (x.tick, x.after))
    (hquiet : x.IsQuiet) {key : String}
    (hn : newestCount? (x.resource h).history key = some n) :
    newestCount? h.history key = some n := by
  rcases Turn.history_resource hlook with hsame | ⟨resync, hentered⟩
  · rw [hsame] at hn
    exact hn
  · rw [hentered] at hn
    exact newestCount?_enteringAll hquiet hn

/-- **One look.**  A quiet look at an object without an annotation sends at most the patch that
corrects its count, by the history that the look reads, and leaves it without one. -/
theorem Turn.spares (hlook : Slumber.tick (x.found h) floor x.now x.before = .ok (x.tick, x.after))
    (hc : x.before.Keyed) (hquiet : x.IsQuiet) (hbefore : x.before.Unmarked k) :
    PatchesOnly k (fun p => ∃ m, x.before.object? k = some m
        ∧ m.Corrects (x.found h).readHistory p) x.before x.after
      ∧ x.after.Unmarked k := by
  rcases tick_cases hlook with hrests | ⟨gap, hacts⟩
  · rw [hrests.cluster_eq]
    exact ⟨.of_eq rfl, hbefore⟩
  cases hheld : x.before.object? k with
  | none =>
      obtain ⟨hpatches, hgone⟩ := executeGroups_absent hc hacts.executed hheld
      refine ⟨hpatches, fun m hm => ?_⟩
      rw [hgone] at hm
      cases hm
  | some m =>
      obtain rfl : m.key = k := hc.key_eq hheld
      have hunmarked : m.IsUnmarked := hbefore m hheld
      obtain ⟨hpatches, hsettled⟩ := executeGroups_settles hc hacts.executed hquiet hunmarked
        (.inr (.inl hheld))
      refine ⟨hpatches.imp fun p hp => ⟨m, rfl, hp⟩, fun m' hm' => ?_⟩
      rcases hsettled with hgone | hsame | ⟨_, m'', -, -, hheld', hawake⟩
      · rw [hgone] at hm'
        cases hm'
      · rw [hsame, Option.some.injEq] at hm'
        exact hm' ▸ hunmarked
      · rw [hheld', Option.some.injEq] at hm'
        exact hm' ▸ hawake.1

/-- **Awake objects are left alone, or corrected.**  Take looks at a resource whose statuses are all
stored, with any specs at any instants, on keyed clusters, and an object that has no annotation
behind the first of them, such as one that was restored. Let no later look put anything to sleep or
scale anything, and let others not annotate the object, whatever else they do in between. Then a
later look sends a patch of the object only if

* the newest count that the resource recorded for it by the end of the first look is positive;
* that record is still in the history that the look reads;
* and the look finds the object with another number of replicas;

and the patch puts the recorded number in place. -/
theorem awake_left_alone {first : Turn} {later : List Turn}
    (hturns : Turns floor h (first :: later)) (hkeyed : ∀ x ∈ later, x.before.Keyed)
    (hothers : (first :: later).IsChain (OthersSpare k)) (hquiet : ∀ x ∈ later, x.IsQuiet)
    (hawake : first.after.Unmarked k) :
    ∀ earlier x rest, later = earlier ++ x :: rest →
      PatchesOnly k (fun p => ∃ (n : Int32) (m : Manifest) (count : Int),
          newestCount? (first.resource h).history k.text = some n ∧ 0 < n.toInt
          ∧ (x.found (turnedBy h (first :: earlier))).readHistory.countBefore? k.text = some n
          ∧ x.before.object? k = some m ∧ m.replicaCount? = some count ∧ count ≠ n.toInt
          ∧ p = ⟨k, Patch.toJson [.replace m.replicaPath (.ofWord32 n)], .json⟩)
        x.before x.after := by
  -- Whatever the first look is: what counts is the record behind it, and that there is none newer.
  suffices hfrom : ∀ (h₀ : List Revision), (∀ n, newestCount? (first.resource h).history k.text
      = some n → newestCount? h₀ k.text = some n) → ∀ earlier x rest, later = earlier ++ x :: rest →
        PatchesOnly k (fun p => ∃ (n : Int32) (m : Manifest) (count : Int),
          newestCount? h₀ k.text = some n ∧ 0 < n.toInt
          ∧ (x.found (turnedBy h (first :: earlier))).readHistory.countBefore? k.text = some n
          ∧ x.before.object? k = some m ∧ m.replicaCount? = some count ∧ count ≠ n.toInt
          ∧ p = ⟨k, Patch.toJson [.replace m.replicaPath (.ofWord32 n)], .json⟩)
          x.before x.after from hfrom _ fun _ hn => hn
  intro h₀ hnewest
  induction later generalizing h first with
  | nil =>
      intro earlier x rest hsplit
      exact absurd hsplit (by simp)
  | cons y later ih =>
      rw [List.isChain_cons_cons] at hothers
      cases hturns with
      | cons _ hnext =>
      cases hnext with
      | cons hlook hrest =>
      have hyquiet : y.IsQuiet := hquiet y List.mem_cons_self
      have hyfound : y.before.Unmarked k := hothers.1.unmarked hawake
      obtain ⟨hpatches, hleft⟩ :=
        Turn.spares hlook (hkeyed y List.mem_cons_self) hyquiet hyfound
      intro earlier x rest hsplit
      rcases List.cons_eq_append_iff.1 hsplit with ⟨rfl, hxy⟩ | ⟨earlier', rfl, hsplit'⟩
      · cases hxy
        refine hpatches.imp fun p hp => ?_
        obtain ⟨m, hm, n, count, hn, hpos, hcount, hne, hp⟩ := hp
        have hkey : m.key = k := (hkeyed y List.mem_cons_self).key_eq hm
        rw [hkey] at hn hp
        exact ⟨n, m, count, hnewest n (newestCount?_ofEntries hn), hpos, hn, hm, hcount, hne, hp⟩
      · exact ih (.cons hlook hrest) (fun z hz => hkeyed z (List.mem_cons_of_mem _ hz))
          hothers.2 (fun z hz => hquiet z (List.mem_cons_of_mem _ hz)) hleft
          (fun n hn => hnewest n (Turn.newestCount?_resource hlook hyquiet hn)) earlier' x rest
          hsplit'

end

/-! ### Instances -/

open scoped Time.ClockHistory

/-- What puts a workload to sleep, or wakes it up. -/
def nightly (isActive : Bool) : Spec :=
  { rules := [{ inclusions := [⟨{ type := "deployment", name := "web" }, { name := "shop" }⟩] }]
    forceActive := isActive
    forceInactive := !isActive }

/-- A resource that has no status yet. -/
def sleeper : Hibernator :=
  { namespaceName := "ops", name := "nights" }

/-- A cluster with a workload that nothing governs. -/
def loneCluster : Cluster :=
  { Cluster.standard with objects := [(sampleWorkload.key, sampleWorkload)] }

/-- The workload as others scale it. -/
def rescaledWorkload : Manifest :=
  ⟨.obj
    [("apiVersion", .str "apps/v1"), ("kind", .str "Deployment"),
     ("metadata", .obj [("name", .str "web"), ("namespace", .str "shop")]),
     ("spec", .obj [("replicas", .int 5)])]⟩

/-- A night, a morning, and an hour later, before which others may do something. -/
def morning (others : Cluster → Cluster) : List (Spec × Instant × (Cluster → Cluster)) :=
  [(nightly true, ⟨0, 0⟩, id), (nightly false, ⟨3600, 0⟩, id), (nightly false, ⟨7200, 0⟩, others)]

/-- The second look restored the workload, and the third one is quiet and finds it with a number of
replicas and without the annotation. -/
structure IsMorning (sleep wake later : Turn) (found : Int) : Prop where
  turns : Turns ⟨61, 0⟩ sleeper [sleep, wake, later]
  restored : ∃ r ∈ wake.tick.reports, r.action = .unhibernate
    ∧ ∃ o ∈ r.impacted, o.key = sampleWorkload.key.text ∧ o.status = .success
  awake : ∃ m, wake.after.object? sampleWorkload.key = some m ∧ m.IsAwake 3
  recorded : newestCount? (wake.resource (sleep.resource sleeper)).history sampleWorkload.key.text
    = some 3
  keyed : later.before.Keyed
  quiet : later.IsQuiet
  found : ∃ m, later.before.object? sampleWorkload.key = some m ∧ m.IsUnmarked
    ∧ m.replicaCount? = some found

/-- The same as a check. -/
def isMorning (sleep wake later : Turn) (found : Int) : Bool :=
  let recorded := (wake.resource (sleep.resource sleeper)).history
  (wake.tick.reports.any fun r => r.action == .unhibernate
      && r.impacted.any fun o => o.key == sampleWorkload.key.text && o.status == .success)
    && ((wake.after.object? sampleWorkload.key).any fun m =>
      m.annotation? replicasAnnotationKey == none && m.replicaCount? == some 3)
    && decide (InOrder recorded)
    && recorded.reverse.findSome? (History.recordedCount? sampleWorkload.key.text) == some 3
    && decide later.before.Keyed
    && (later.tick.reports.all fun r => r.action != .hibernate && r.action != .scale)
    && (later.before.object? sampleWorkload.key).any fun m =>
      m.annotation? replicasAnnotationKey == none && m.replicaCount? == some found

theorem isMorning_of_check {sleep wake later : Turn} {found : Int}
    (hturns : Turns ⟨61, 0⟩ sleeper [sleep, wake, later])
    (hcheck : isMorning sleep wake later found = true) : IsMorning sleep wake later found := by
  unfold isMorning at hcheck
  simp only [Bool.and_eq_true, List.any_eq_true, List.all_eq_true, beq_iff_eq, bne_iff_ne,
    Option.any_eq_true, decide_eq_true_eq] at hcheck
  obtain ⟨⟨⟨⟨⟨⟨hrestored, hawake⟩, hordered⟩, hrecorded⟩, hkeyed⟩, hquiet⟩, hfound⟩ := hcheck
  exact ⟨hturns, hrestored, hawake, (newestCount?_of_inOrder hordered _).trans hrecorded, hkeyed,
    hquiet, hfound⟩

/-- Whether there are such looks that pass a check. -/
def morningPasses (others : Cluster → Cluster) (check : Turn → Turn → Turn → Bool) : Bool :=
  match takeTurns ⟨61, 0⟩ (morning others) sleeper loneCluster with
  | some [sleep, wake, later] => check sleep wake later
  | _ => false

theorem exists_morning (others : Cluster → Cluster) (check : Turn → Turn → Turn → Bool)
    (hpasses : morningPasses others check = true) :
    ∃ sleep wake later, takeTurns ⟨61, 0⟩ (morning others) sleeper loneCluster
      = some [sleep, wake, later] ∧ check sleep wake later = true := by
  unfold morningPasses at hpasses
  split at hpasses
  · rename_i sleep wake later hrun
    exact ⟨sleep, wake, later, hrun, hpasses⟩
  · cases hpasses

/-- Nobody touches the workload, and an hour after it was restored no patch of it is sent. -/
theorem awake_left_alone_workload :
    ∃ sleep wake later, IsMorning sleep wake later 3
      ∧ PatchesOnly sampleWorkload.key (fun _ => False) later.before later.after := by
  obtain ⟨sleep, wake, later, hrun, hcheck⟩ := exists_morning id (isMorning · · · 3)
    (by decide +kernel)
  have hmorning := isMorning_of_check (turns_of_takeTurns hrun) hcheck
  obtain ⟨m, hm, hunmarked, hcount⟩ := hmorning.found
  refine ⟨sleep, wake, later, hmorning, ?_⟩
  cases hmorning.turns with
  | cons _ hturns =>
  have hspared := awake_left_alone (k := sampleWorkload.key) hturns
    (fun x hx => by rw [List.mem_singleton.1 hx]; exact hmorning.keyed)
    (List.isChain_cons_cons.2 ⟨fun m' hm' => by
      rw [hm, Option.some.injEq] at hm'
      exact .inl (hm' ▸ hunmarked), .singleton _⟩)
    (fun x hx => by rw [List.mem_singleton.1 hx]; exact hmorning.quiet)
    (fun m' hm' => by
      obtain ⟨m'', hm'', hawake⟩ := hmorning.awake
      rw [hm'', Option.some.injEq] at hm'
      exact hm' ▸ hawake.1)
    [] later [] rfl
  refine hspared.imp fun p hp => ?_
  obtain ⟨n, m', count, hn, -, -, hm', hcount', hne, -⟩ := hp
  rw [hm, Option.some.injEq] at hm'
  rw [← hm', hcount, Option.some.injEq] at hcount'
  rw [hmorning.recorded, Option.some.injEq] at hn
  exact hne (by rw [← hcount', ← hn]; rfl)

/-- A morning behind which a patch of the workload was sent. -/
def isRescaledMorning (sleep wake later : Turn) : Bool :=
  isMorning sleep wake later 5
    && (later.after.patches.drop later.before.patches.length).any (·.key == sampleWorkload.key)

/-- **An awake object that is not left alone.**  Others give the workload five replicas after it was
restored, and the next look sends a patch of it. -/
theorem awake_corrected :
    ∃ sleep wake later, IsMorning sleep wake later 5
      ∧ later.before = wake.after.insert rescaledWorkload
      ∧ ¬ PatchesOnly sampleWorkload.key (fun _ => False) later.before later.after := by
  obtain ⟨sleep, wake, later, hrun, hcheck⟩ := exists_morning (·.insert rescaledWorkload)
    isRescaledMorning (by decide +kernel)
  unfold isRescaledMorning at hcheck
  rw [Bool.and_eq_true] at hcheck
  refine ⟨sleep, wake, later, isMorning_of_check (turns_of_takeTurns hrun) hcheck.1, ?_,
    fun hspared => ?_⟩
  · obtain ⟨x, rest, heq, -, -, hrun⟩ := takeTurns_cons hrun
    obtain ⟨rfl, rfl⟩ := List.cons.inj heq
    obtain ⟨y, rest, heq, -, -, hrun⟩ := takeTurns_cons hrun
    obtain ⟨rfl, rfl⟩ := List.cons.inj heq
    obtain ⟨z, rest, heq, hbefore, -, -⟩ := takeTurns_cons hrun
    obtain ⟨rfl, rfl⟩ := List.cons.inj heq
    exact hbefore
  · obtain ⟨new, hnew, hnone⟩ := hspared
    obtain ⟨p, hp, hkey⟩ := List.any_eq_true.1 hcheck.2
    rw [hnew, List.drop_left] at hp
    exact hnone p hp (by simpa using hkey)

end Slumber
