import Slumber.Proofs.Status.Records
import Slumber.Proofs.Transition.Scalable
import Slumber.Proofs.Transition.Truthful

/-!
# No count is lost

Of every object that the rules can scale, the number of replicas from the beginning is known at any
time: the object has it and no annotation, or its annotation keeps it; and whatever a history
records for the object is that number. Every transition but a deletion keeps this, and waking an
object up gives it that number back.

* `Manifest.Keeps`, `Manifest.IsAwake` — the count is known, and in place;
* `Effect.keeps` — no case of a transition loses the count;
* `NothingLost` — the invariant for a cluster, and `IsRightRecord` for what is recorded;
* `executeGroup_nothingLost` — a group of rules keeps the invariant, and gives the counts back when
  it wakes objects up.
-/

namespace Slumber

open Cluster Selection Manifest

variable {t : Transition} {store : Bool} {hist : History}

/-! ### One object -/

/-- The object has the count, and no annotation. -/
def Manifest.IsAwake (m : Manifest) (n : Int32) : Prop :=
  m.annotation? replicasAnnotationKey = none ∧ m.replicaCount? = some n.toInt

instance (m : Manifest) (n : Int32) : Decidable (m.IsAwake n) :=
  inferInstanceAs (Decidable (_ ∧ _))

/-- The object has a count, and either it is awake with the count `n`, or its annotation keeps
`n`. -/
structure Manifest.Keeps (m : Manifest) (n : Int32) : Prop where
  counted : ∃ count, m.replicaCount? = some count
  kept : m.IsAwake n ∨ m.annotatedCount? = some n

theorem clamp32_toInt (n : Int32) : Int32.ofInt (Decimal.clamp32 n.toInt) = n := by
  have hlow := n.le_toInt
  have hhigh := n.toInt_lt
  have hsame : Decimal.clamp32 n.toInt = n.toInt := by
    unfold Decimal.clamp32
    omega
  rw [hsame, Int32.ofInt_toInt]

theorem annotatedCount?_of_none {m : Manifest}
    (h : m.annotation? replicasAnnotationKey = none) : m.annotatedCount? = none := by
  unfold annotatedCount?
  rw [h]
  rfl

theorem IsAwake.keeps {m : Manifest} {n : Int32} (h : m.IsAwake n) : m.Keeps n :=
  ⟨⟨_, h.2⟩, .inl h⟩

/-- The number that is noted, or reported, when an object is scaled is the one that is kept. -/
theorem Manifest.Keeps.before_eq {m : Manifest} {n target before : Int32} {p : Patch}
    (h : m.Keeps n) (hp : replicaPatch? m target = some (p, before)) : before = n := by
  obtain ⟨count, hcount, -, rfl⟩ := replicaPatch?_some hp
  rcases h.kept with ⟨hann, hn⟩ | hn
  · rw [hcount, Option.some.injEq] at hn
    rw [annotatedCount?_of_none hann, hn]
    exact clamp32_toInt n
  · rw [hn]
    rfl

/-- The number that an object is restored to is the one that is kept. -/
theorem Manifest.Keeps.restoreCount?_eq {m : Manifest} {n n' : Int32} (h : m.Keeps n)
    (hhist : ∀ n', hist.countBefore? m.key.text = some n' → 0 < n'.toInt → n' = n)
    (hn' : restoreCount? m hist = some n') : n' = n := by
  unfold restoreCount? at hn'
  obtain ⟨hfound, hpos⟩ := Option.filter_eq_some_iff.1 hn'
  rcases h.kept with ⟨hann, -⟩ | hn
  · rw [annotatedCount?_of_none hann] at hfound
    exact hhist n' hfound (of_decide_eq_true hpos)
  · rw [hn] at hfound
    exact (Option.some.inj hfound).symm

/-- A number that the annotation keeps is found. -/
theorem restoreCount?_of_annotatedCount? {m : Manifest} {n : Int32} (hn : 0 < n.toInt)
    (h : m.annotatedCount? = some n) : restoreCount? m hist = some n := by
  unfold restoreCount?
  rw [h]
  show (some n).filter _ = some n
  rw [Option.filter_some, if_pos (by simpa using hn)]

/-- Scaling an object notes the count in its annotation, or leaves it there. -/
theorem Manifest.Scaled.keeps {m m' : Manifest} {target n : Int32} (hm' : m.Scaled m' target n)
    (hm : m.Keeps n) : m'.Keeps n := by
  refine ⟨⟨_, hm'.count⟩, .inr ?_⟩
  have hnoted := hm'.annotation
  rcases hm.kept with ⟨hann, -⟩ | hn
  · rw [hann] at hnoted
    exact annotatedCount?_of_toString hnoted
  · obtain ⟨text, htext⟩ : ∃ text, m.annotation? replicasAnnotationKey = some text := by
      rw [← Option.isSome_iff_exists, Option.isSome_iff_ne_none]
      intro hnone
      rw [annotatedCount?_of_none hnone] at hn
      cases hn
    rw [htext, Option.getD_some] at hnoted
    rw [annotatedCount?_eq_of_annotation? (hnoted.trans htext.symm), hn]

/-- **No case loses the count.**  Whatever a transition but a deletion makes of an object that keeps
a positive count, the object keeps it, reports give it, and waking the object up puts it in place
if patches of the object are accepted. -/
theorem Effect.keeps {accepts : Prop} {m : Manifest} {after : Option Manifest}
    {impacted : List ImpactedObject} {excluded : List ExcludedObject} {n : Int32}
    (he : Effect t store hist accepts m after impacted excluded) (ht : t ≠ .delete)
    (hm : m.Keeps n) (hn : 0 < n.toInt)
    (hhist : ∀ n', hist.countBefore? m.key.text = some n' → 0 < n'.toInt → n' = n) :
    ∃ m', after = some m' ∧ m'.Keeps n ∧ (∀ o ∈ impacted, o.countBefore = n)
      ∧ (t = .unhibernate → accepts → m'.IsAwake n) := by
  -- What is awake, or refuses patches, is left as it is.
  have hsleeping : ¬ m.IsAwake n → m.annotatedCount? = some n :=
    fun hasleep => hm.kept.resolve_left hasleep
  cases he with
  | unscaled hkind =>
      refine ⟨m, rfl, hm, fun _ ho => (nomatch ho), fun hwaking => ?_⟩
      rcases hkind with rfl | ⟨_, _, rfl⟩
      · cases hwaking
      · cases hwaking
  | @scaled target before p m' htarget hp hm' =>
      have hbefore := hm.before_eq hp
      subst hbefore
      refine ⟨m', rfl, hm'.keeps hm, fun o ho => ?_, fun hwaking => ?_⟩
      · rw [List.mem_singleton.1 ho]
      · subst hwaking
        cases htarget
  | scaleFailed htarget hp =>
      refine ⟨m, rfl, hm, fun o ho => ?_, fun hwaking => ?_⟩
      · rw [List.mem_singleton.1 ho]
        exact hm.before_eq hp
      · subst hwaking
        cases htarget
  | uncounted _ hcount =>
      obtain ⟨count, hcounted⟩ := hm.counted
      rw [hcount] at hcounted
      cases hcounted
  | unknown _ _ hunknown =>
      refine ⟨m, rfl, hm, fun _ ho => (nomatch ho), fun _ _ => ?_⟩
      by_contra hasleep
      rw [restoreCount?_of_annotatedCount? hn (hsleeping hasleep)] at hunknown
      cases hunknown
  | @awake n' _ hfound hcount hann =>
      have hsame := hm.restoreCount?_eq hhist hfound
      subst hsame
      exact ⟨m, rfl, hm, fun _ ho => (nomatch ho), fun _ _ => ⟨hann, hcount⟩⟩
  | @cleaned n' s m' _ hfound hcount _ hm' =>
      have hsame := hm.restoreCount?_eq hhist hfound
      subst hsame
      have hawake : m'.IsAwake n' := ⟨hm'.annotation, hm'.count.trans hcount⟩
      exact ⟨m', rfl, IsAwake.keeps hawake, fun _ ho => (nomatch ho), fun _ _ => hawake⟩
  | cleanupFailed _ _ _ hrefused =>
      exact ⟨m, rfl, hm, fun _ ho => (nomatch ho), fun _ haccepts => absurd haccepts hrefused⟩
  | @restored n' count m' _ hfound _ _ hm' =>
      have hsame := hm.restoreCount?_eq hhist hfound
      subst hsame
      have hawake : m'.IsAwake n' := ⟨hm'.annotation, hm'.count⟩
      exact ⟨m', rfl, IsAwake.keeps hawake, fun o ho => by rw [List.mem_singleton.1 ho],
        fun _ _ => hawake⟩
  | restoreFailed _ hfound _ _ hrefused =>
      have hsame := hm.restoreCount?_eq hhist hfound
      exact ⟨m, rfl, hm, fun o ho => by rw [List.mem_singleton.1 ho]; exact hsame,
        fun _ haccepts => absurd haccepts hrefused⟩
  | deleted hdelete => exact absurd hdelete ht

/-- An object without a count is left as it is. -/
theorem Effect.uncounted_same {accepts : Prop} {m : Manifest} {after : Option Manifest}
    {impacted : List ImpactedObject} {excluded : List ExcludedObject}
    (he : Effect t store hist accepts m after impacted excluded) (ht : t ≠ .delete)
    (hm : m.replicaCount? = none) : after = some m := by
  cases he with
  | unscaled | scaleFailed | uncounted | unknown | awake | cleanupFailed | restoreFailed => rfl
  | scaled _ hp =>
      obtain ⟨count, hcount, -⟩ := replicaPatch?_some hp
      rw [hm] at hcount
      cases hcount
  | cleaned _ _ hcount => rw [hm] at hcount; cases hcount
  | restored _ _ hcount => rw [hm] at hcount; cases hcount
  | deleted hdelete => exact absurd hdelete ht

/-! ### A cluster -/

/-- What became of the cluster `c₀`: it changed only in what transitions change and only in what the
rules can scale, and all counts are kept. -/
structure NothingLost (c₀ : Cluster) (rules : List Rule) (c : Cluster) : Prop where
  alike : Alike c₀ c
  kept : ∀ m₀, c₀.CanScale rules m₀ → ∃ m, c.object? m₀.key = some m
    ∧ (m₀.replicaCount? = none → m = m₀)
    ∧ ∀ n : Int32, m₀.replicaCount? = some n.toInt → m.Keeps n
  others : ∀ k, (∀ m₀, c₀.CanScale rules m₀ → m₀.key ≠ k) → c.object? k = c₀.object? k

/-- What is recorded for an object that can be scaled is its count from the beginning. -/
def IsRightRecord (c₀ : Cluster) (rules : List Rule) (o : ImpactedObject) : Prop :=
  ∀ m₀, c₀.CanScale rules m₀ → o.key = m₀.key.text →
    ∀ n : Int32, m₀.replicaCount? = some n.toInt → o.countBefore = n

/-- All objects that can be scaled have, if any, a positive count. -/
def CountsPositive (c₀ : Cluster) (rules : List Rule) : Prop :=
  ∀ m₀, c₀.CanScale rules m₀ → ∀ n : Int32, m₀.replicaCount? = some n.toInt → 0 < n.toInt

section

variable {c₀ c : Cluster} {rules : List Rule}

/-- In the beginning nothing is lost. -/
theorem NothingLost.start (hc : c₀.Keyed) (hrules : ∀ r ∈ rules, r.IsPlain)
    (hfresh : ∀ m₀, c₀.CanScale rules m₀ → m₀.annotation? replicasAnnotationKey = none) :
    NothingLost c₀ rules c₀ where
  alike := .refl c₀
  kept := fun m₀ hm₀ => ⟨m₀, hm₀.object? hc hrules, fun _ => rfl,
    fun _ hcount => IsAwake.keeps ⟨hfresh m₀ hm₀, hcount⟩⟩
  others := fun _ _ => rfl

/-- What is refused has no part in it. -/
theorem NothingLost.of_objects_eq {c' : Cluster} (h : NothingLost c₀ rules c)
    (htypes : c'.types = c.types) (hlists : c'.refusedLists = c.refusedLists)
    (hobjects : c'.objects = c.objects) : NothingLost c₀ rules c' := by
  have hsame : ∀ k, c'.object? k = c.object? k := fun k => by rw [object?, hobjects, object?]
  refine ⟨h.alike.trans ⟨htypes, hlists, hobjects ▸ (Alike.refl c).objects⟩, fun m₀ hm₀ => ?_,
    fun k hk => (hsame k).trans (h.others k hk)⟩
  obtain ⟨m, hm, hkept⟩ := h.kept m₀ hm₀
  exact ⟨m, (hsame _).trans hm, hkept⟩

/-- The count that a history gives for an object is the right one. -/
theorem countBefore?_right {n n' : Int32} {m₀ : Manifest}
    (hhist : Records hist.entries (IsRightRecord c₀ rules)) (hm₀ : c₀.CanScale rules m₀)
    (hcount : m₀.replicaCount? = some n.toInt) (hn' : hist.countBefore? m₀.key.text = some n') :
    n' = n := by
  obtain ⟨r, hr, o, ho, hkey, rfl⟩ := History.exists_of_countBefore? hn'
  exact hhist r hr o ho m₀ hm₀ hkey n hcount

end

/-! ### A group of rules -/

section

variable {c₀ c c' : Cluster} {rules : List Rule} {now : Instant} {all : RuleSelection}
  {steps : List Step} {s : Spec} {report : Report}

/-- A run on the targets of rules handles what the rules can scale. -/
theorem Ran.exists_step (hran : Ran t store hist c [] all.targets c steps c') (ht : t ≠ .delete)
    (hc : c.Keyed) (hrules : ∀ r ∈ rules, r.IsPlain)
    (hall : Selects c all (c.IsIncluded now rules) (c.IsSetApart now rules)) {m : Manifest}
    (hm : c.CanScale rules m) : ∃ step ∈ steps, step.object = m := by
  obtain ⟨target, hstored, htarget, hstand⟩ := (canScale_iff hc hrules now).1 hm
  have hmem : target ∈ all.targets := (mem_targets_iff hc hall).2 ⟨hstored, htarget⟩
  have hheld := hm.object? hc hrules
  rcases hran.complete target hmem with hseen | hkey
  · cases hseen
  · have hsame : t.standIn c target = m := by
      rw [Transition.standIn, if_neg ht, hstand]
    rw [hsame] at hkey
    obtain ⟨step, hstep, hstepkey⟩ := List.mem_map.1 hkey
    exact ⟨step, hstep, hran.object_eq_of_key hstep hheld hstepkey⟩

/-- And nothing else. -/
theorem Ran.canScale (hran : Ran t store hist c [] all.targets c steps c') (ht : t ≠ .delete)
    (hc : c.Keyed) (hall : selectGroup now rules {} c = .ok (all, c))
    (hselects : Selects c all (c.IsIncluded now rules) (c.IsSetApart now rules)) {step : Step}
    (hstep : step ∈ steps) : c.CanScale rules step.object := by
  have htargets : ∀ m ∈ all.targets, c.object? m.key = some m :=
    fun m hm => ((mem_targets_iff hc hselects).1 hm).1
  obtain ⟨target, htarget, hobject⟩ := hran.object_eq hc htargets hstep
  rw [Transition.standIn, if_neg ht] at hobject
  exact ⟨now, all, hall, target, htarget, hobject.symm⟩

/-- What the rules could scale in the beginning is handled as it was kept. -/
theorem NothingLost.exists_step (hinv : NothingLost c₀ rules c) (hc₀ : c₀.Keyed)
    (hrules : ∀ r ∈ rules, r.IsPlain) (ht : t ≠ .delete)
    (hran : Ran t store hist c [] all.targets c steps c')
    (hall : Selects c all (c.IsIncluded now rules) (c.IsSetApart now rules)) {m₀ : Manifest}
    (hm₀ : c₀.CanScale rules m₀) :
    ∃ step ∈ steps, step.object.key = m₀.key
      ∧ (m₀.replicaCount? = none → step.object = m₀)
      ∧ ∀ n : Int32, m₀.replicaCount? = some n.toInt → step.object.Keeps n := by
  have hc := hinv.alike.keyed hc₀
  obtain ⟨m, hm, hsame⟩ := hinv.alike.canScale hc₀ hrules hm₀
  obtain ⟨m', hheld, hkept⟩ := hinv.kept m₀ hm₀
  have hkey : m.key = m₀.key := hsame.key_eq
  have hheld' := hm.object? hc hrules
  rw [hkey, hheld, Option.some.injEq] at hheld'
  subst hheld'
  obtain ⟨step, hstep, rfl⟩ := hran.exists_step ht hc hrules hall hm
  exact ⟨step, hstep, hkey, hkept⟩

/-- What is done to an object with a count keeps it, and reports it. -/
theorem NothingLost.of_step (hinv : NothingLost c₀ rules c) (hc₀ : c₀.Keyed)
    (hrules : ∀ r ∈ rules, r.IsPlain) (hpos : CountsPositive c₀ rules)
    (hhist : Records hist.entries (IsRightRecord c₀ rules)) (hkeeps : t.KeepsResources)
    (ht : t ≠ .delete) (hran : Ran t store hist c [] all.targets c steps c')
    (hall : Selects c all (c.IsIncluded now rules) (c.IsSetApart now rules)) {m₀ : Manifest}
    (hm₀ : c₀.CanScale rules m₀) {n : Int32} (hn : m₀.replicaCount? = some n.toInt) {step : Step}
    (hstep : step ∈ steps) (hkey : step.object.key = m₀.key) :
    (∀ o ∈ step.impacted, o.countBefore = n) ∧ ∃ m, c'.object? m₀.key = some m ∧ m.Keeps n
      ∧ (t = .unhibernate → c.Accepts m₀.key → m.IsAwake n) := by
  obtain ⟨step', hstep', hkey', -, hkept⟩ := hinv.exists_step hc₀ hrules ht hran hall hm₀
  have hsame : step'.object = step.object := by
    obtain ⟨-, -, -, hobject, -⟩ := hran.done step hstep
    exact hran.object_eq_of_key hstep' hobject (hkey'.trans hkey.symm)
  have hright : ∀ n', hist.countBefore? step.object.key.text = some n' → 0 < n'.toInt →
      n' = n := by
    rw [hkey]
    exact fun n' hn' _ => countBefore?_right hhist hm₀ hn hn'
  obtain ⟨m, hm, hkeepsafter, hreported, hwakes⟩ :=
    ((hran.done step hstep).effect hkeeps).keeps ht (hsame ▸ hkept n hn) (hpos m₀ hm₀ n hn) hright
  rw [hkey] at hm hwakes
  exact ⟨hreported, m, hm, hkeepsafter, hwakes⟩

/-- **A group of rules loses no count.**  If nothing was lost before, and what the history records
is right, then a transition other than a deletion loses nothing, what it reports is right, and if it
wakes objects up then every object that accepts patches has its count back. -/
theorem executeGroup_nothingLost (hc₀ : c₀.Keyed) (hrules : ∀ r ∈ rules, r.IsPlain)
    (hpos : CountsPositive c₀ rules) (hinv : NothingLost c₀ rules c)
    (hhist : Records hist.entries (IsRightRecord c₀ rules)) (hkeeps : t.KeepsResources)
    (ht : t ≠ .delete) (hrun : executeGroup now s t rules hist c = .ok (report, c')) :
    NothingLost c₀ rules c' ∧ (∀ o ∈ report.impacted, IsRightRecord c₀ rules o)
      ∧ (t = .unhibernate → ∀ m₀, c₀.CanScale rules m₀ → c.Accepts m₀.key →
          ∀ n : Int32, m₀.replicaCount? = some n.toInt →
            ∃ m, c'.object? m₀.key = some m ∧ m.IsAwake n) := by
  have hc := hinv.alike.keyed hc₀
  obtain ⟨all, hall, hselects, rfl, hc'⟩ := executeGroup_ok hc hrun
  obtain ⟨steps, hreport, hran⟩ := executeGroup_ran hc hselects t s.storeDeleted hist
  rw [← hc'] at hran
  have halike : Alike c₀ c' := hinv.alike.trans (hran.alike ht)
  have hcounted : ∀ m₀, c₀.CanScale rules m₀ → ∀ n : Int32, m₀.replicaCount? = some n.toInt →
      ∀ step ∈ steps, step.object.key = m₀.key → _ :=
    fun m₀ hm₀ n hn step hstep hkey =>
      hinv.of_step hc₀ hrules hpos hhist hkeeps ht hran hselects hm₀ hn hstep hkey
  refine ⟨⟨halike, fun m₀ hm₀ => ?_, fun k hk => ?_⟩, fun o ho m₀ hm₀ htext n hn => ?_,
    fun hwaking m₀ hm₀ haccepts n hn => ?_⟩
  · -- With a count or without, the object was handled.
    obtain ⟨step, hstep, hkey, hsame, -⟩ := hinv.exists_step hc₀ hrules ht hran hselects hm₀
    obtain ⟨m, hm, -⟩ := halike.object? (hm₀.object? hc₀ hrules)
    refine ⟨m, hm, fun hnone => ?_, fun n hn => ?_⟩
    · have hobject := hsame hnone
      have hleft := ((hran.done step hstep).effect hkeeps).uncounted_same ht (hobject ▸ hnone)
      rw [hkey, hm, hobject, Option.some.injEq] at hleft
      exact hleft
    · obtain ⟨-, m', hm', hkeepsafter, -⟩ := hcounted m₀ hm₀ n hn step hstep hkey
      rw [hm, Option.some.injEq] at hm'
      exact hm' ▸ hkeepsafter
  · -- Only what can be scaled is handled.
    rw [← hinv.others k hk]
    refine hran.touches.object?_eq k fun hmem => ?_
    obtain ⟨step, hstep, hkey⟩ := List.mem_map.1 hmem
    have hcan := hran.canScale ht hc hall hselects hstep
    obtain ⟨m₀, hm₀, hsame⟩ := hinv.alike.symm.canScale hc hrules hcan
    exact hk m₀ hm₀ (hsame.key_eq.trans hkey)
  · -- A report under the key of an object is about it.
    rw [Report.adding, hreport, List.append_nil] at ho
    obtain ⟨step, hstep, ho⟩ := List.mem_flatMap.1 ho
    obtain ⟨m, hm, hsame⟩ := hinv.alike.object? (hm₀.object? hc₀ hrules)
    have hmkey : m.key = m₀.key := hsame.key_eq
    have hkey := hran.key_eq_of_reported hc (hmkey ▸ hm) hstep ho (by rw [htext, hmkey])
    exact (hcounted m₀ hm₀ n hn step hstep (hkey.trans hmkey)).1 o ho
  · obtain ⟨step, hstep, hkey, -, -⟩ := hinv.exists_step hc₀ hrules ht hran hselects hm₀
    obtain ⟨-, m, hm, -, hawake⟩ := hcounted m₀ hm₀ n hn step hstep hkey
    exact ⟨m, hm, hawake hwaking haccepts⟩

end

end Slumber
