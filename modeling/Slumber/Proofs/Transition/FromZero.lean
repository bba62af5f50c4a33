import Slumber.Proofs.Transition.Keeping
import Slumber.Proofs.Transition.Overlaps

/-!
# Objects that had no replicas

An object that had no replicas before it was first acted upon can be scaled up like any other one,
and its annotation then keeps the zero. But only a positive number counts as one to restore. So
waking such an object up leaves it as it is, and says that its number from before is not known.
What scaling and sleeping made of the object stays until another transition scales or deletes it.

* `restoreCount?_of_keeps_zero` — there is no number to restore;
* `Effect.fromZero` — what a transition makes of the object;
* `Pass.Sets`, `Pass.LeavesUnknown` — what transitions of an execution do to the object;
* `Pass.StartedAt.treatsFromZero` — one of them.
-/

namespace Slumber

open Cluster Selection Manifest

variable {t : Transition} {store : Bool} {hist : History} {m : Manifest} {k : ObjectKey}

/-! ### One object -/

/-- Neither the annotation nor the history has a positive number for the object. -/
theorem restoreCount?_of_keeps_zero (hm : m.Keeps 0)
    (hhist : Records hist.entries (ImpactedObject.Gives m.key 0)) :
    restoreCount? m hist = none := by
  cases hn : restoreCount? m hist with
  | none => rfl
  | some n =>
      have hzero := hm.restoreCount?_eq (fun n' => hhist.eq_of_countBefore?) hn
      subst hzero
      obtain ⟨-, hpos⟩ := Option.filter_eq_some_iff.1 hn
      exact absurd hpos (by decide)

/-- An object that needs no scaling has the number already. -/
theorem replicaCount?_of_replicaPatch? {n : Int32} (hm : m.Keeps 0)
    (hp : replicaPatch? m n = none) : m.replicaCount? = some n.toInt := by
  obtain ⟨count, hcount⟩ := hm.counted
  unfold replicaPatch? at hp
  rw [hcount] at hp
  dsimp only at hp
  split at hp
  · rename_i heq
    rw [hcount, heq]
  · split at hp <;> cases hp

/-- A transition that gives a number neither deletes objects nor wakes them up. -/
theorem Transition.ne_of_target? {n : Int32} (ht : t.target? = some n) :
    t ≠ .delete ∧ t ≠ .unhibernate := by
  constructor
  · intro h
    rw [h] at ht
    cases ht
  · intro h
    rw [h] at ht
    cases ht

/-- **What a transition makes of an object that had no replicas.**  Waking up leaves it as it is and
excludes it. Scaling sets the number unless a failure is reported, and the zero is kept. Nothing
else happens to it unless it is deleted. -/
structure FromZero (t : Transition) (m : Manifest) (after : Option Manifest)
    (impacted : List ImpactedObject) (excluded : List ExcludedObject) : Prop where
  reported : ∀ o ∈ impacted, o.countBefore = 0
  deleted : t = .delete → after = none
  kept : t ≠ .delete → ∃ m', after = some m' ∧ m'.Keeps 0
  scaled : ∀ n m', t.target? = some n → after = some m' →
    (∀ o ∈ impacted, o.status ≠ .error) → m'.replicaCount? = some n.toInt
  failed : t ≠ .delete → (t.target? = none ∨ ∃ o ∈ impacted, o.status = .error) → after = some m
  excluded : t = .unhibernate → ⟨m.key.text, unknownCountBefore⟩ ∈ excluded

theorem Effect.fromZero {accepts : Prop} {after : Option Manifest}
    {impacted : List ImpactedObject} {excluded : List ExcludedObject}
    (he : Effect t store hist accepts m after impacted excluded) (hm : m.Keeps 0)
    (hhist : Records hist.entries (ImpactedObject.Gives m.key 0)) :
    FromZero t m after impacted excluded := by
  have hnone := restoreCount?_of_keeps_zero hm hhist
  cases he with
  | unscaled hkind hn =>
      have hne : t ≠ .delete ∧ t ≠ .unhibernate := by
        rcases hkind with h | ⟨_, _, h⟩ <;> rw [h] <;> exact ⟨nofun, nofun⟩
      refine ⟨by simp, fun ht => absurd ht hne.1, fun _ => ⟨m, rfl, hm⟩, ?_, fun _ _ => rfl,
        fun ht => absurd ht hne.2⟩
      intro n m' ht hm' _
      rw [← Option.some.inj hm']
      exact replicaCount?_of_replicaPatch? hm (hn n ht)
  | @scaled n before p m' ht hp hm' =>
      have hne := Transition.ne_of_target? ht
      have hbefore := hm.before_eq hp
      subst hbefore
      refine ⟨by simp, fun ht => absurd ht hne.1, fun _ => ⟨m', rfl, hm'.keeps hm⟩, ?count,
        ?stays, fun ht => absurd ht hne.2⟩
      case count =>
        intro n' m'' ht' hm'' _
        rw [ht, Option.some.injEq] at ht'
        rw [← Option.some.inj hm'', ← ht']
        exact hm'.count
      case stays =>
        intro _ hfailed
        rcases hfailed with hfailed | ⟨o, ho, hfailed⟩
        · rw [ht] at hfailed
          cases hfailed
        · rw [List.mem_singleton.1 ho] at hfailed
          cases hfailed
  | scaleFailed ht hp reason =>
      have hne := Transition.ne_of_target? ht
      have hbefore := hm.before_eq hp
      subst hbefore
      refine ⟨by simp, fun ht => absurd ht hne.1, fun _ => ⟨m, rfl, hm⟩, ?_, fun _ _ => rfl,
        fun ht => absurd ht hne.2⟩
      intro n m' _ _ hall
      exact absurd rfl (hall _ (List.mem_singleton_self _))
  | uncounted ht hcount =>
      obtain ⟨count, hcounted⟩ := hm.counted
      rw [hcount] at hcounted
      cases hcounted
  | unknown ht hcount hn =>
      subst ht
      exact ⟨by simp, by simp, fun _ => ⟨m, rfl, hm⟩, fun n m' ht => (nomatch ht),
        fun _ _ => rfl, fun _ => List.mem_singleton_self _⟩
  | awake ht hn | cleaned ht hn | cleanupFailed ht hn | restored ht hn | restoreFailed ht hn =>
      rw [hnone] at hn
      cases hn
  | deleted ht =>
      subst ht
      exact ⟨by simp, fun _ => rfl, by simp, fun n m' _ hm' => (nomatch hm'), by simp, by simp⟩

/-! ### One transition of an execution -/

/-- The number of replicas of the object of a key; none if it is not there. -/
def Cluster.countAt (c : Cluster) (k : ObjectKey) : Option Int :=
  (c.object? k).bind replicaCount?

/-- The object of a key is gone, or has this number of replicas and had none at first. -/
def Cluster.CountedFromZero (c : Cluster) (k : ObjectKey) : Option Int → Prop
  | none => c.object? k = none
  | some n => ∃ m, c.object? k = some m ∧ m.Keeps 0 ∧ m.replicaCount? = some n

/-- The transition acts upon the object of a key, and gives it a number of replicas without
reporting a failure, or deletes it. -/
inductive Pass.Sets (now : Instant) (p : Pass) (k : ObjectKey) : Option Int → Prop
  | scaled {n : Int32} (htargets : p.Targets now k) (ht : p.transition.target? = some n)
      (hdone : ∀ i ∈ p.report.impacted, i.key = k.text → i.status ≠ .error) :
      Sets now p k (some n.toInt)
  | deleted (htargets : p.Targets now k) (ht : p.transition = .delete) : Sets now p k none

variable {now : Instant} {s : Spec} {p : Pass} {c₀ c c' : Cluster} {count : Option Int}

theorem Cluster.CountedFromZero.countAt_eq (h : c.CountedFromZero k count) :
    c.countAt k = count := by
  unfold countAt
  cases count with
  | none => rw [show c.object? k = none from h, Option.bind_none]
  | some n =>
      obtain ⟨m, hm, -, hn⟩ := h
      rw [hm, Option.bind_some, hn]

theorem Pass.Sets.targets {new : Option Int} (h : p.Sets now k new) : p.Targets now k := by
  cases h with
  | scaled htargets => exact htargets
  | deleted htargets => exact htargets

/-- If the transition wakes objects up and acts upon the object of a key, it leaves the object as it
is, and excludes it because its number of replicas from before is not known. -/
def Pass.LeavesUnknown (now : Instant) (p : Pass) (k : ObjectKey) : Prop :=
  p.transition = .unhibernate → p.Targets now k →
    p.after.object? k = p.before.object? k ∧ ⟨k.text, unknownCountBefore⟩ ∈ p.report.excluded

/-- What a transition did to an object that had no replicas, and what it says about it. -/
structure Pass.TreatsFromZero (now : Instant) (p : Pass) (k : ObjectKey) (count : Option Int) :
    Prop where
  reported : ∀ i ∈ p.report.impacted, i.Gives k 0
  woken : p.LeavesUnknown now k
  counted : ∃ new, p.after.CountedFromZero k new
    ∧ (p.Sets now k new ∨ new = count ∧ ∀ other, ¬ p.Sets now k other)

/-- A transition that does not act upon an object says nothing about it and leaves it as it is. -/
theorem Pass.StartedAt.treatsFromZero_of_not_targets (hp : p.StartedAt now s hist c₀)
    (hc₀ : c₀.Keyed) (hnone : ∀ ns, c₀.autoscalersIn ns = []) (hstored : c₀.object? k ≠ none)
    (hcount : p.before.CountedFromZero k count) (hnot : ¬ p.Targets now k) :
    p.TreatsFromZero now k count := by
  obtain ⟨htouches, hother⟩ := (hp.spares_or_targets hc₀ hnone hstored).resolve_right hnot
  have hsame : p.after.object? k = p.before.object? k :=
    htouches.object?_eq k fun hne => hne rfl
  refine ⟨fun i hi htext => absurd htext (hother i hi), fun _ htargets => absurd htargets hnot,
    count, ?_, .inr ⟨rfl, fun other hsets => hnot hsets.targets⟩⟩
  unfold CountedFromZero at hcount ⊢
  rw [hsame]
  exact hcount

/-- What a transition reports of an object that it acts upon is what all its steps upon the object
report, each of which made the object what it is behind the transition. -/
theorem Pass.StartedAt.fromZero_of_targets (hp : p.StartedAt now s hist c₀) (hc₀ : c₀.Keyed)
    (hnone : ∀ ns, c₀.autoscalersIn ns = []) (hkeeps : p.transition.KeepsResources)
    (hhist : Records hist.entries (ImpactedObject.Gives m.key 0))
    (hm : p.before.object? m.key = some m) (hzero : m.Keeps 0) (htargets : p.Targets now m.key) :
    FromZero p.transition m (p.after.object? m.key)
      (p.report.impacted.filter (·.key = m.key.text)) p.report.excluded := by
  obtain ⟨all, steps, himpacted, hexcluded, hran, hkeys⟩ := executeGroup_handles hp.keyed
    (fun ns => hp.dwindled.autoscalersIn_eq_nil hc₀ hp.keyed (hnone ns)) hp.group_ok
  have hfrom : ∀ step ∈ steps, step.object.key = m.key →
      FromZero p.transition m (p.after.object? m.key) step.impacted step.excluded := by
    intro step hstep hkey
    have heffect := (hran.done step hstep).effect hkeeps
    rw [hran.object_eq_of_key hstep hm hkey] at heffect
    exact heffect.fromZero hzero hhist
  have hreported : ∀ i ∈ p.report.impacted.filter (·.key = m.key.text),
      ∃ step ∈ steps, step.object.key = m.key ∧ i ∈ step.impacted := by
    intro i hi
    obtain ⟨hi, htext⟩ := List.mem_filter.1 hi
    rw [himpacted] at hi
    obtain ⟨step, hstep, hi⟩ := List.mem_flatMap.1 hi
    have hkey := hran.key_eq_of_reported hp.keyed hm hstep hi (of_decide_eq_true htext)
    exact ⟨step, hstep, hkey, hi⟩
  have hreports : ∀ step ∈ steps, step.object.key = m.key → ∀ o ∈ step.impacted,
      o ∈ p.report.impacted.filter (·.key = m.key.text) := by
    intro step hstep hkey o ho
    obtain ⟨c₁, hc₁, -, -, hnow, hout, -⟩ := hran.done step hstep
    have ho' : o ∈ (p.transition.applyTo s.storeDeleted hist step.object c₁).1.1 := by
      rw [hout]
      exact ho
    have htext := p.transition.key_of_mem_applyTo hc₁ hnow s.storeDeleted hist ho'
    rw [hkey] at htext
    refine List.mem_filter.2 ⟨?_, decide_eq_true htext⟩
    rw [himpacted]
    exact List.mem_flatMap.2 ⟨step, hstep, ho⟩
  obtain ⟨step, hstep, hkey⟩ := List.mem_map.1 ((hkeys m.key).2 htargets)
  have hhere := hfrom step hstep hkey
  refine ⟨?reported, hhere.deleted, hhere.kept, ?scaled, ?failed, ?excluded⟩
  case reported =>
    intro i hi
    obtain ⟨step, hstep, hkey, hi⟩ := hreported i hi
    exact (hfrom step hstep hkey).reported i hi
  case scaled =>
    intro n m' ht hm' hdone
    exact hhere.scaled n m' ht hm' fun o ho => hdone o (hreports step hstep hkey o ho)
  case failed =>
    intro hne hfailed
    rcases hfailed with hnone | ⟨i, hi, herror⟩
    · exact hhere.failed hne (.inl hnone)
    · obtain ⟨step, hstep, hkey, hi⟩ := hreported i hi
      exact (hfrom step hstep hkey).failed hne (.inr ⟨i, hi, herror⟩)
  case excluded =>
    intro ht
    exact hexcluded step hstep _ (hhere.excluded ht)

/-- A transition that acts upon an object. -/
theorem Pass.StartedAt.treatsFromZero_of_targets (hp : p.StartedAt now s hist c₀)
    (hc₀ : c₀.Keyed) (hnone : ∀ ns, c₀.autoscalersIn ns = [])
    (hkeeps : p.transition.KeepsResources)
    (hhist : Records hist.entries (ImpactedObject.Gives k 0))
    (hcount : p.before.CountedFromZero k count) (htargets : p.Targets now k) :
    p.TreatsFromZero now k count := by
  cases count with
  | none =>
      obtain ⟨m, hm, -⟩ := htargets
      rw [show p.before.object? k = none from hcount] at hm
      cases hm
  | some n =>
  obtain ⟨m, hm, hzero, hn⟩ := hcount
  obtain rfl := hp.keyed.key_eq hm
  have hhere := hp.fromZero_of_targets hc₀ hnone hkeeps hhist hm hzero htargets
  have hmem : ∀ {i}, i ∈ p.report.impacted.filter (·.key = m.key.text)
      ↔ i ∈ p.report.impacted ∧ i.key = m.key.text := by
    intro i
    rw [List.mem_filter, decide_eq_true_eq]
  refine ⟨?reported, ?woken, ?counted⟩
  case reported =>
    intro i hi htext
    exact .inl (hhere.reported i (hmem.2 ⟨hi, htext⟩))
  case woken =>
    intro ht _
    have hne : p.transition ≠ .delete := by
      rw [ht]
      decide
    have htarget : p.transition.target? = none := by
      rw [ht]
      rfl
    exact ⟨(hhere.failed hne (.inl htarget)).trans hm.symm, hhere.excluded ht⟩
  case counted =>
    by_cases ht : p.transition = .delete
    · exact ⟨none, hhere.deleted ht, .inl (.deleted htargets ht)⟩
    obtain ⟨m', hm', hzero'⟩ := hhere.kept ht
    by_cases hsets : ∃ other, p.Sets now m.key other
    · obtain ⟨other, hsets⟩ := hsets
      cases hsets with
      | deleted _ hdelete => exact absurd hdelete ht
      | @scaled target _ htarget hdone =>
          have hset := hhere.scaled target m' htarget hm' fun o ho =>
            hdone o (hmem.1 ho).1 (hmem.1 ho).2
          exact ⟨some target.toInt, ⟨m', hm', hzero', hset⟩, .inl (.scaled htargets htarget hdone)⟩
    · -- Nothing was set: there is no number to set, or a failure was reported.
      have hfailed : p.transition.target? = none
          ∨ ∃ i ∈ p.report.impacted.filter (·.key = m.key.text), i.status = .error := by
        cases htarget : p.transition.target? with
        | none => exact .inl rfl
        | some target =>
            by_contra hno
            rw [not_or] at hno
            refine hsets ⟨_, .scaled htargets htarget fun i hi htext herror => ?_⟩
            exact hno.2 ⟨i, hmem.2 ⟨hi, htext⟩, herror⟩
      have hsame := hhere.failed ht hfailed
      exact ⟨some n, ⟨m, hsame, hzero, hn⟩, .inr ⟨rfl, fun other h => hsets ⟨other, h⟩⟩⟩

/-- **One transition.**  It treats an object that had no replicas as it should, whether it acts upon
the object or not. -/
theorem Pass.StartedAt.treatsFromZero (hp : p.StartedAt now s hist c₀) (hc₀ : c₀.Keyed)
    (hnone : ∀ ns, c₀.autoscalersIn ns = []) (hstored : c₀.object? k ≠ none)
    (hkeeps : p.transition.KeepsResources)
    (hhist : Records hist.entries (ImpactedObject.Gives k 0))
    (hcount : p.before.CountedFromZero k count) : p.TreatsFromZero now k count := by
  by_cases htargets : p.Targets now k
  · exact hp.treatsFromZero_of_targets hc₀ hnone hkeeps hhist hcount htargets
  · exact hp.treatsFromZero_of_not_targets hc₀ hnone hstored hcount htargets

end Slumber
