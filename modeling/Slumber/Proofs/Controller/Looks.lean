import Slumber.Proofs.Transition.Recovery
import Slumber.Time.ClockHistory

/-!
# Sleeping never loses a count

A resource is looked at again and again, while its windows, flags, counts and limits change, while
patches are refused now and then, and whether or not the statuses are stored. As long as its rules
stay the same, and it only puts objects to sleep or scales them, the number of replicas that an
object had in the beginning is never lost: each look keeps the invariant `NothingLost` of the
cluster and records nothing but right numbers.

* `Spec.OnlyScales` — specs with given rules that only put objects to sleep or scale them;
* `execute_nothingLost`, `tick_keeps` — what one look keeps;
* `Look`, `looks` — a sequence of looks;
* `looks_nothingLost` — the main theorem.
-/

namespace Slumber

open Cluster Selection Manifest

/-! ### Specs that only scale -/

/-- The spec has these rules and no others, and puts objects to sleep or scales their replicas. -/
structure Spec.OnlyScales (s : Spec) (rules : List Rule) : Prop where
  rules_eq : s.rules = rules
  action : s.action = .hibernate ∨ s.action = .scale
  resources : s.targetResources = []

/-- Rules without an action of their own are one group. -/
theorem ruleGroups_of_uniform {s : Spec} (h : ∀ r ∈ s.rules, r.action = none) :
    ruleGroups s = if s.rules = [] then [] else [(s.action, s.rules)] := by
  have hsame : ∀ r ∈ s.rules, r.action.getD s.action = s.action := by
    intro r hr
    rw [h r hr]
    rfl
  have hactions : ∀ (rules : List Rule) (seen : List Action),
      (∀ r ∈ rules, r.action.getD s.action = s.action) →
      (rules.map fun r => r.action.getD s.action).foldl
          (fun as a => if a ∈ as then as else as ++ [a]) (s.action :: seen)
        = s.action :: seen := by
    intro rules seen hrules
    induction rules with
    | nil => rfl
    | cons r rules ih =>
        rw [List.map_cons, List.foldl_cons, hrules r List.mem_cons_self, if_pos List.mem_cons_self]
        exact ih fun r' hr' => hrules r' (List.mem_cons_of_mem _ hr')
  unfold ruleGroups
  cases hrules : s.rules with
  | nil => rfl
  | cons r rules =>
      rw [hrules] at hsame
      have hfirst := hsame r List.mem_cons_self
      have hrest := hactions rules [] fun r' hr' => hsame r' (List.mem_cons_of_mem _ hr')
      have hfilter : (r :: rules).filter (fun r' => r'.action.getD s.action = s.action)
          = r :: rules :=
        List.filter_eq_self.2 fun r' hr' => decide_eq_true (hsame r' hr')
      rw [if_neg (List.cons_ne_nil r rules)]
      dsimp only
      rw [List.map_cons, List.foldl_cons, hfirst]
      show List.map _ (List.foldl _ [s.action] _) = _
      rw [hrest, List.map_singleton, hfilter]

/-- The transition of such a spec scales, or wakes objects up. -/
theorem Spec.OnlyScales.resolve {s : Spec} {rules : List Rule} (hs : s.OnlyScales rules)
    (isActive : Bool) (range : Option Nat) :
    ∃ t, Transition.resolve s.action isActive s range = some t ∧ t.KeepsResources ∧ t ≠ .delete
      ∧ (isActive = false → t = .unhibernate) := by
  have hnone : pick? s.targetResources range = none := by
    rw [hs.resources]
    cases range <;> rfl
  cases isActive with
  | false =>
      refine ⟨.unhibernate, ?_, trivial, by decide, fun _ => rfl⟩
      rcases hs.action with h | h <;> rw [h] <;> rfl
  | true =>
      rcases hs.action with h | h
      · exact ⟨.hibernate, by rw [h]; rfl, trivial, by decide, fun hfalse => (nomatch hfalse)⟩
      · refine ⟨.scale (pick? s.targetReplicas range) none, ?_, rfl,
          Transition.noConfusion, fun hfalse => (nomatch hfalse)⟩
        rw [h, ← hnone]
        rfl

/-! ### One look -/

section

variable {c₀ c : Cluster} {rules : List Rule} {s : Spec} {hist : History} {now : Instant}

/-- Without rules nothing can be scaled. -/
theorem not_canScale_nil (hc : c.Keyed) (m : Manifest) : ¬ c.CanScale [] m := by
  intro hm
  obtain ⟨-, -, ⟨⟨r, hr, -⟩, -⟩, -⟩ :=
    (canScale_iff hc (fun _ hr => by cases hr) ⟨0, 0⟩).1 hm
  cases hr

/-- A group of rules without expressions comes to an end. -/
theorem executeGroup_total (hc : c.Keyed) (hrules : ∀ r ∈ rules, r.IsPlain) (s : Spec)
    (t : Transition) (hist : History) (now : Instant) :
    ∃ report c', executeGroup now s t rules hist c = .ok (report, c') := by
  obtain ⟨all, hall⟩ :=
    (selectGroup_start_reads (T := True) hc (fun _ => hrules) now).exists_ok trivial
  exact ⟨_, _, executeGroup_of_select hall⟩

/-- Objects with a count have it in place, if their patches are accepted by `c`. -/
def AllAwake (c₀ : Cluster) (rules : List Rule) (c c' : Cluster) : Prop :=
  ∀ m₀, c₀.CanScale rules m₀ → c.Accepts m₀.key → ∀ n : Int32, m₀.replicaCount? = some n.toInt →
    ∃ m, c'.object? m₀.key = some m ∧ m.IsAwake n

/-- Executing a spec that only scales loses nothing. -/
theorem execute_nothingLost (hc₀ : c₀.Keyed) (hrules : ∀ r ∈ rules, r.IsPlain ∧ r.action = none)
    (hpos : CountsPositive c₀ rules) (hs : s.OnlyScales rules) (hinv : NothingLost c₀ rules c)
    (hhist : Records hist.entries (IsRightRecord c₀ rules)) (now : Instant) (isActive : Bool)
    (range : Option Nat) :
    ∃ reports c', execute now s isActive range hist c = .ok (reports, c')
      ∧ NothingLost c₀ rules c' ∧ (∀ r ∈ reports, ∀ o ∈ r.impacted, IsRightRecord c₀ rules o)
      ∧ (isActive = false → AllAwake c₀ rules c c') := by
  obtain ⟨t, ht, hkeeps, hdelete, hwaking⟩ := hs.resolve isActive range
  have hplain : ∀ r ∈ rules, r.IsPlain := fun r hr => (hrules r hr).1
  have hgroups : ruleGroups s = if rules = [] then [] else [(s.action, rules)] := by
    rw [ruleGroups_of_uniform (hs.rules_eq ▸ fun r hr => (hrules r hr).2), hs.rules_eq]
  unfold execute
  rw [hgroups]
  by_cases hnil : rules = []
  · subst hnil
    exact ⟨[], c, rfl, hinv, fun r hr => (nomatch hr),
      fun _ m₀ hm₀ => absurd hm₀ (not_canScale_nil hc₀ m₀)⟩
  · rw [if_neg hnil]
    obtain ⟨report, c', hrun⟩ := executeGroup_total (hinv.alike.keyed hc₀) hplain s t hist now
    obtain ⟨hinv', hright, hawake⟩ :=
      executeGroup_nothingLost hc₀ hplain hpos hinv hhist hkeeps hdelete hrun
    refine ⟨[report], c', (executeGroups_cons_ok ht).2 ⟨report, c', [], hrun, rfl, rfl⟩, hinv',
      fun r hr => ?_, fun hinactive => hawake (hwaking hinactive)⟩
    rw [List.mem_singleton.1 hr]
    exact hright

variable [ZoneDatabase]

/-- What one look at a resource is to keep: nothing is lost, the status to store records right
numbers, and objects outside the windows wake up unless nothing was done. -/
structure TickKeeps (c₀ : Cluster) (rules : List Rule) (s : Spec) (now : Instant) (c : Cluster)
    (t : Tick) (c' : Cluster) : Prop where
  nothingLost : NothingLost c₀ rules c'
  recorded : ∀ status, t.status = some status →
    Records status.history (IsRightRecord c₀ rules)
  awake : ∀ gap, s.schedule.gapAt now = .ok gap → s.isActive gap = false →
    (t.outcome = .transitioned ∨ t.outcome = .idle) → AllAwake c₀ rules c c'

/-- A look that does nothing keeps everything. -/
theorem TickKeeps.of_nothing {t : Tick} (hinv : NothingLost c₀ rules c)
    (hstatus : ∀ status, t.status = some status → Records status.history (IsRightRecord c₀ rules))
    (houtcome : t.outcome ≠ .transitioned ∧ t.outcome ≠ .idle) :
    TickKeeps c₀ rules s now c t c where
  nothingLost := hinv
  recorded := hstatus
  awake := fun _ _ _ hacted => (hacted.elim houtcome.1 houtcome.2).elim

/-- Acting upon objects. -/
theorem actAt_keeps (hc₀ : c₀.Keyed) (hrules : ∀ r ∈ rules, r.IsPlain ∧ r.action = none)
    (hpos : CountsPositive c₀ rules) (hs : s.OnlyScales rules) (hinv : NothingLost c₀ rules c)
    (hhist : Records hist.entries (IsRightRecord c₀ rules)) {gap : Gap}
    (hgap : s.schedule.gapAt now = .ok gap) (previous : Status) (notes : List String)
    (requeueAfter : Duration) :
    ∃ t c', actAt s previous hist gap notes requeueAfter now c = .ok (t, c')
      ∧ TickKeeps c₀ rules s now c t c' := by
  obtain ⟨reports, c', hrun, hinv', hright, hawake⟩ :=
    execute_nothingLost hc₀ hrules hpos hs hinv hhist now (s.isActive gap) gap.range
  unfold actAt
  refine ⟨_, c', (Run.bind_of_ok hrun).trans rfl, hinv', fun status hstatus => ?_,
    fun gap' hgap' hinactive _ => hawake ?_⟩
  · rw [← Option.some.inj hstatus]
    exact hhist.foldl_entering hright now _
  · rw [hgap, Except.ok.injEq] at hgap'
    rw [hgap', hinactive]

/-- A look behind the pauses. -/
theorem tickUnpaused_keeps {h : Hibernator} (hc₀ : c₀.Keyed)
    (hrules : ∀ r ∈ rules, r.IsPlain ∧ r.action = none) (hpos : CountsPositive c₀ rules)
    (hs : h.spec.OnlyScales rules) (hinv : NothingLost c₀ rules c)
    (hrecorded : Records (h.status.getD {}).history (IsRightRecord c₀ rules)) (floor : Duration)
    (notes : List String) (now : Instant) :
    ∃ t c', tickUnpaused h floor notes now c = .ok (t, c')
      ∧ TickKeeps c₀ rules h.spec now c t c' := by
  unfold tickUnpaused
  cases hgap : h.spec.schedule.gapAt now with
  | error fault =>
      refine ⟨_, c, rfl, .of_nothing hinv (fun status hstatus => ?_) (by simp)⟩
      rw [← Option.some.inj hstatus]
      exact hrecorded
  | ok gap =>
      dsimp only
      split
      · exact ⟨_, c, rfl, .of_nothing hinv (fun status hstatus => by cases hstatus) (by simp)⟩
      · exact actAt_keeps hc₀ hrules hpos hs hinv (hrecorded.ofEntries _) hgap _ _ _

/-- **One look loses no count.** -/
theorem tick_keeps {h : Hibernator} (hc₀ : c₀.Keyed)
    (hrules : ∀ r ∈ rules, r.IsPlain ∧ r.action = none) (hpos : CountsPositive c₀ rules)
    (hs : h.spec.OnlyScales rules) (hinv : NothingLost c₀ rules c)
    (hrecorded : Records (h.status.getD {}).history (IsRightRecord c₀ rules)) (floor : Duration)
    (now : Instant) :
    ∃ t c', tick h floor now c = .ok (t, c') ∧ TickKeeps c₀ rules h.spec now c t c' := by
  have hpaused : ∀ requeueAfter, TickKeeps c₀ rules h.spec now c
      { outcome := .paused, requeueAfter } c :=
    fun _ => .of_nothing hinv (fun status hstatus => by cases hstatus) (by simp)
  -- A pause until an instant that has passed, or that cannot be read, leaves the other pause.
  have hbehind : ∀ notes, ∃ t c', (if h.spec.pause then pure { outcome := .paused }
      else tickUnpaused h floor notes now : Run Cluster Tick) c = .ok (t, c')
        ∧ TickKeeps c₀ rules h.spec now c t c' := by
    intro notes
    split
    · exact ⟨_, c, rfl, hpaused none⟩
    · exact tickUnpaused_keeps hc₀ hrules hpos hs hinv hrecorded floor notes now
  unfold tick
  cases pauseAt h.spec floor now with
  | error fault => exact hbehind _
  | ok remaining =>
      cases remaining with
      | none => exact hbehind _
      | some d => exact ⟨_, c, rfl, hpaused (some d)⟩

end

/-! ### Sequences of looks -/

/-- One look at a resource: what is asked for by then, the instant, the patches that are refused
then and why, and whether the status that comes of it is stored. -/
structure Look where
  spec : Spec
  now : Instant
  refusedPatches : FiniteMap String String := []
  isStored : Bool := true

/-- The cluster that refuses those patches. -/
def Look.cluster (l : Look) (c : Cluster) : Cluster :=
  { c with refusedPatches := l.refusedPatches }

/-- The resource after a look. A look that leaves the status alone stores none. -/
def Look.resource (l : Look) (h : Hibernator) (t : Tick) : Hibernator :=
  { h with spec := l.spec, status := if l.isStored then t.status <|> h.status else h.status }

/-- Takes a look; gives what came of it. -/
def Look.take [ZoneDatabase] (l : Look) (floor : Duration) (h : Hibernator) : Run Cluster Tick := do
  Run.lift (modify l.cluster)
  tick { h with spec := l.spec } floor l.now

/-- Takes looks, one after the other; gives the resource afterwards. -/
def looks [ZoneDatabase] (floor : Duration) : List Look → Hibernator → Run Cluster Hibernator
  | [], h => pure h
  | l :: rest, h => do
    let t ← l.take floor h
    looks floor rest (l.resource h t)

section

variable {c₀ c : Cluster} {rules : List Rule} {h : Hibernator} {l : Look}

/-- What holds between two looks: nothing is lost, and what the resource records is right. -/
structure BetweenLooks (c₀ : Cluster) (rules : List Rule) (h : Hibernator) (c : Cluster) :
    Prop where
  nothingLost : NothingLost c₀ rules c
  recorded : Records (h.status.getD {}).history (IsRightRecord c₀ rules)

variable [ZoneDatabase]

/-- A look keeps this, and gives counts back outside the windows. -/
theorem BetweenLooks.take (hinv : BetweenLooks c₀ rules h c) (hc₀ : c₀.Keyed)
    (hrules : ∀ r ∈ rules, r.IsPlain ∧ r.action = none) (hpos : CountsPositive c₀ rules)
    (hl : l.spec.OnlyScales rules) (floor : Duration) :
    ∃ t c', l.take floor h c = .ok (t, c') ∧ BetweenLooks c₀ rules (l.resource h t) c'
      ∧ TickKeeps c₀ rules l.spec l.now (l.cluster c) t c' := by
  have hstart : NothingLost c₀ rules (l.cluster c) := hinv.nothingLost.of_objects_eq rfl rfl rfl
  obtain ⟨t, c', hrun, hkeeps⟩ := tick_keeps (h := { h with spec := l.spec }) hc₀ hrules hpos hl
    hstart hinv.recorded floor l.now
  refine ⟨t, c', ?_, ⟨hkeeps.nothingLost, ?_⟩, hkeeps⟩
  · unfold Look.take
    rw [Run.bind_lift]
    exact hrun
  · show Records ((if l.isStored then t.status <|> h.status else h.status).getD {}).history _
    split
    · cases hstatus : t.status with
      | none => exact hinv.recorded
      | some status => exact hkeeps.recorded status hstatus
    · exact hinv.recorded

/-- So does any number of looks. -/
theorem BetweenLooks.looks (hinv : BetweenLooks c₀ rules h c) (hc₀ : c₀.Keyed)
    (hrules : ∀ r ∈ rules, r.IsPlain ∧ r.action = none) (hpos : CountsPositive c₀ rules)
    (floor : Duration) (ls : List Look) (hls : ∀ l ∈ ls, l.spec.OnlyScales rules) :
    ∃ h' c', Slumber.looks floor ls h c = .ok (h', c') ∧ BetweenLooks c₀ rules h' c' := by
  induction ls generalizing h c with
  | nil => exact ⟨h, c, rfl, hinv⟩
  | cons l ls ih =>
      obtain ⟨t, c₁, htake, hinv₁, -⟩ :=
        hinv.take hc₀ hrules hpos (hls l List.mem_cons_self) floor
      obtain ⟨h', c', hrest, hinv'⟩ := ih hinv₁ fun l' hl' => hls l' (List.mem_cons_of_mem _ hl')
      refine ⟨h', c', ?_, hinv'⟩
      rw [Slumber.looks, Run.bind_of_ok htake]
      exact hrest

end

/-- **Sleeping never loses a count.**  Take a keyed cluster and a resource without a status, whose
rules have no expressions and no actions of their own. Let every object that the rules can scale
have no annotation, and no count or a positive one. Then looks with those rules that only put
objects to sleep or scale them, at any instants, whatever else they ask for, whichever patches are
refused, and whether or not their statuses are stored, all come to an end, and afterwards

* every object that the rules can scale is there: without a count it is as it was; a count from the
  beginning is in place, without the annotation, or the annotation keeps it;
* every count that the resource records for such an object is the one from the beginning;
* all other objects are as they were;
* any further such look comes to an end, and if it acts, outside the windows, then every object
  whose patches it accepts has its count back and no annotation. -/
theorem looks_nothingLost [ZoneDatabase] (floor : Duration) (c : Cluster) (hc : c.Keyed)
    (rules : List Rule) (hrules : ∀ r ∈ rules, r.IsPlain ∧ r.action = none)
    (hstart : ∀ m, c.CanScale rules m → m.annotation? replicasAnnotationKey = none
      ∧ ∀ count, m.replicaCount? = some count → 0 < count ∧ count < 2 ^ 31)
    (h : Hibernator) (hnew : h.status = none) (ls : List Look)
    (hls : ∀ l ∈ ls, l.spec.OnlyScales rules) :
    ∃ h' c', looks floor ls h c = .ok (h', c')
      ∧ (∀ m, c.CanScale rules m → ∃ m', c'.object? m.key = some m'
          ∧ (m.replicaCount? = none → m' = m)
          ∧ ∀ n : Int32, m.replicaCount? = some n.toInt →
              (m'.IsAwake n ∨ m'.annotatedCount? = some n)
              ∧ ∀ r ∈ (h'.status.getD {}).history, ∀ o ∈ r.impacted,
                  o.key = m.key.text → o.countBefore = n)
      ∧ (∀ k, (∀ m, c.CanScale rules m → m.key ≠ k) → c'.object? k = c.object? k)
      ∧ ∀ l : Look, l.spec.OnlyScales rules → ∃ t c'', l.take floor h' c' = .ok (t, c'')
          ∧ ∀ gap, l.spec.schedule.gapAt l.now = .ok gap → l.spec.isActive gap = false →
              (t.outcome = .transitioned ∨ t.outcome = .idle) →
                ∀ m, c.CanScale rules m → (l.cluster c').Accepts m.key →
                  ∀ n : Int32, m.replicaCount? = some n.toInt →
                    ∃ m', c''.object? m.key = some m' ∧ m'.IsAwake n := by
  have hplain : ∀ r ∈ rules, r.IsPlain := fun r hr => (hrules r hr).1
  have hpos : CountsPositive c rules := fun m hm n hn => ((hstart m hm).2 _ hn).1
  have hinv : BetweenLooks c rules h c := by
    refine ⟨.start hc hplain fun m hm => (hstart m hm).1, ?_⟩
    rw [hnew]
    exact .nil _
  obtain ⟨h', c', hrun, hinv'⟩ := hinv.looks hc hrules hpos floor ls hls
  refine ⟨h', c', hrun, fun m hm => ?_, hinv'.nothingLost.others, fun l hl => ?_⟩
  · obtain ⟨m', hm', hsame, hkept⟩ := hinv'.nothingLost.kept m hm
    exact ⟨m', hm', hsame, fun n hn => ⟨(hkept n hn).kept,
      fun r hr o ho hkey => hinv'.recorded r hr o ho m hm hkey n hn⟩⟩
  · obtain ⟨t, c'', htake, -, hkeeps⟩ := hinv'.take hc hrules hpos hl floor
    exact ⟨t, c'', htake, hkeeps.awake⟩

/-! ### An instance -/

open scoped Time.ClockHistory

/-- A rule for the workload of the sample. -/
def sampleRule : Rule :=
  { inclusions :=
      [{ objects := { type := "deployment", name := "web" }, namespaces := { name := "shop" } }] }

/-- The objects are put to sleep, then scaled without the status being stored, and then woken up
while patches of the autoscaler are refused. -/
def sampleLooks : List Look :=
  [{ spec := { rules := [sampleRule], forceActive := true }, now := ⟨0, 0⟩ },
   { spec :=
       { rules := [sampleRule], forceActive := true, action := .scale, targetReplicas := [1] },
     now := ⟨100, 0⟩, isStored := false },
   { spec := { rules := [sampleRule], forceInactive := true }, now := ⟨200, 0⟩,
     refusedPatches := [(sampleAutoscaler.key.text, "busy")] }]

theorem canScale_sampleAutoscaler : sampleCluster.CanScale [sampleRule] sampleAutoscaler := by
  have hfound : (match selectGroup ⟨0, 0⟩ [sampleRule] {} sampleCluster with
      | .ok (all, _) => (all.targets.map sampleCluster.standIn).contains sampleAutoscaler
      | .error _ => false) = true := by decide +kernel
  split at hfound
  · rename_i all c' hall
    obtain ⟨target, htarget, hstand⟩ := List.mem_map.1 (List.contains_iff_mem.1 hfound)
    obtain ⟨rfl, -⟩ := (selectGroup_start_reads (T := False) sampleCluster_keyed
      (fun h => h.elim) ⟨0, 0⟩).of_ok all c' hall
    exact ⟨⟨0, 0⟩, all, hall, target, htarget, hstand.symm⟩
  · cases hfound

/-- After those looks the count of the autoscaler is known. -/
theorem looks_nothingLost_sample :
    sampleCluster.Keyed ∧ (∀ r ∈ [sampleRule], r.IsPlain ∧ r.action = none)
    ∧ (∀ l ∈ sampleLooks, l.spec.OnlyScales [sampleRule])
    ∧ ∃ h' c', looks ⟨61, 0⟩ sampleLooks { namespaceName := "ops", name := "nights" } sampleCluster
        = .ok (h', c')
      ∧ ∃ m', c'.object? sampleAutoscaler.key = some m'
        ∧ (m'.IsAwake 2 ∨ m'.annotatedCount? = some 2) := by
  have hrules : ∀ r ∈ [sampleRule], r.IsPlain ∧ r.action = none := by
    intro r hr
    rw [List.mem_singleton.1 hr]
    refine ⟨⟨fun s hs => ?_, fun s hs => by cases hs⟩, rfl⟩
    rw [List.mem_singleton.1 hs]
    exact ⟨rfl, rfl⟩
  have hstart : ∀ m, sampleCluster.CanScale [sampleRule] m →
      m.annotation? replicasAnnotationKey = none
        ∧ ∀ count, m.replicaCount? = some count → 0 < count ∧ count < 2 ^ 31 := by
    intro m hm
    have hheld := hm.object? sampleCluster_keyed fun r hr => (hrules r hr).1
    have hmem := sampleCluster_keyed.mem_iff.2 hheld
    rcases List.mem_cons.1 hmem with heq | hmem
    · rw [(Prod.mk.inj heq).2]
      exact ⟨by decide, fun count hcount => by cases hcount; decide⟩
    · rw [(Prod.mk.inj (List.mem_singleton.1 hmem)).2]
      exact ⟨by decide, fun count hcount => by cases hcount; decide⟩
  have hlooks : ∀ l ∈ sampleLooks, l.spec.OnlyScales [sampleRule] := by
    intro l hl
    rcases List.mem_cons.1 hl with rfl | hl
    · exact ⟨rfl, .inl rfl, rfl⟩
    rcases List.mem_cons.1 hl with rfl | hl
    · exact ⟨rfl, .inr rfl, rfl⟩
    rw [List.mem_singleton.1 hl]
    exact ⟨rfl, .inl rfl, rfl⟩
  obtain ⟨h', c', hrun, hkept, -⟩ := looks_nothingLost ⟨61, 0⟩ sampleCluster sampleCluster_keyed
    [sampleRule] hrules hstart { namespaceName := "ops", name := "nights" } rfl sampleLooks hlooks
  obtain ⟨m', hm', -, hcount⟩ := hkept sampleAutoscaler canScale_sampleAutoscaler
  exact ⟨sampleCluster_keyed, hrules, hlooks, h', c', hrun, m', hm', (hcount 2 (by decide)).1⟩

end Slumber
