import Slumber.Proofs.Transition.Effects

/-!
# What a run makes of a cluster

A run handles every target once, or in its place the autoscaler that governs it. `Running` is the
invariant of the loop: only objects seen so far were touched, and what the index knows of
autoscalers is what the cluster held in the beginning. From it follows `Ran`, which says of a whole
run that each object it handled was handled once, as it was in the beginning, and that nothing else
was touched.

* `Transition.standIn` — the object that a transition handles in the place of another;
* `AutoscalerIndex.Knows` — what an index knows in the course of a run;
* `AutoscalerIndex.Knows.scalingObject` — the index finds the object to handle;
* `Transition.runFrom_ran` — the run lemma;
* `Transition.run_ran`, `Ran.effect` — what follows for a whole run.
-/

namespace Slumber

open Cluster Manifest

variable {t : Transition} {store : Bool} {h : History} {c₀ c : Cluster} {seen : List ObjectKey}
  {i : AutoscalerIndex}

/-- The object that a transition handles in the place of another. -/
def Transition.standIn (t : Transition) (c : Cluster) (target : Manifest) : Manifest :=
  if t = .delete then target else c.standIn target

/-- What an index knows of autoscalers in the course of a run that started at `c₀`: what the cluster
held in the beginning, and as it was then unless it was handled since. -/
structure AutoscalerIndex.Knows (c₀ : Cluster) (seen : List ObjectKey) (i : AutoscalerIndex) :
    Prop where
  type : ∀ type, i.type = some type → type = c₀.findType? "hpa"
  known : ∀ ns found, i.known.find? ns = some found →
    List.Forall₂ SameOffScaling (c₀.autoscalersIn ns) found
      ∧ ∀ m ∈ found, m.key ∉ seen → c₀.object? m.key = some m

/-- What holds in the course of a run that started at `c₀`: the objects under the keys in `seen`
have been handled, the index is `i`, and the cluster is now `c`. -/
structure Running (t : Transition) (c₀ : Cluster) (seen : List ObjectKey) (i : AutoscalerIndex)
    (c : Cluster) : Prop where
  keyed : c.Keyed
  touches : TouchesOnly (· ∈ seen) c₀ c
  alike : t ≠ .delete → Alike c₀ c
  index : i.Knows c₀ seen

/-! ### The index of autoscalers -/

namespace AutoscalerIndex

theorem Knows.empty (c₀ : Cluster) (seen : List ObjectKey) : Knows c₀ seen {} :=
  ⟨fun _ h => (nomatch h), fun _ _ h => (nomatch h)⟩

/-- When one more object was handled, what is known of the others still holds. -/
theorem Knows.cons (hi : i.Knows c₀ seen) (k : ObjectKey) : i.Knows c₀ (k :: seen) := by
  refine ⟨hi.type, fun ns found hfound => ?_⟩
  obtain ⟨hlist, hfresh⟩ := hi.known ns found hfound
  exact ⟨hlist, fun m hm hseen => hfresh m hm fun hk => hseen (List.mem_cons_of_mem _ hk)⟩

theorem Knows.typeOf_eq (hi : i.Knows c₀ seen) (halike : Alike c₀ c) :
    i.typeOf c = ((c₀.findType? "hpa", { i with type := some (c₀.findType? "hpa") }), c) := by
  unfold typeOf
  cases htype : i.type with
  | some type =>
      have hsame := hi.type type htype
      have hi : ({ i with type := some (c₀.findType? "hpa") } : AutoscalerIndex) = i := by
        rw [← hsame, ← htype]
      rw [hi, hsame]
      rfl
  | none =>
      rw [← halike.findType?_eq "hpa"]
      simp only [bind_apply, client_resolveType_apply, toOption_typeReply]
      rfl

/-- The autoscalers of a namespace are those from the beginning of the run, and what was not
handled yet is as it was then. -/
theorem Knows.autoscalersIn (hi : i.Knows c₀ seen) (hc : c.Filed)
    (htouches : TouchesOnly (· ∈ seen) c₀ c) (halike : Alike c₀ c) (ns : String) :
    ∃ found i', i.autoscalersIn ns c = ((found, i'), c) ∧ i'.Knows c₀ seen
      ∧ List.Forall₂ SameOffScaling (c₀.autoscalersIn ns) found
      ∧ ∀ m ∈ found, m.key ∉ seen → c₀.object? m.key = some m := by
  unfold AutoscalerIndex.autoscalersIn
  cases hknown : i.known.find? ns with
  | some found =>
      obtain ⟨hlist, hfresh⟩ := hi.known ns found hknown
      exact ⟨found, i, rfl, hi, hlist, hfresh⟩
  | none =>
      have hlist := halike.autoscalersIn ns
      have hfresh : ∀ m ∈ c.autoscalersIn ns, m.key ∉ seen → c₀.object? m.key = some m := by
        intro m hm hseen
        obtain ⟨-, -, -, hobj⟩ := mem_autoscalersIn hc hm
        rw [← htouches.object?_eq _ hseen]
        exact hobj
      refine ⟨c.autoscalersIn ns, ⟨some (c₀.findType? "hpa"),
        i.known.insert ns (c.autoscalersIn ns)⟩, ?_, ?_, hlist, hfresh⟩
      · simp only [bind_apply, hi.typeOf_eq halike]
        rw [Cluster.autoscalersIn, halike.findType?_eq]
        cases c₀.findType? "hpa" <;> rfl
      · refine ⟨fun _ h => (Option.some.inj h).symm, fun ns' found hfound => ?_⟩
        by_cases hns : ns = ns'
        · subst hns
          rw [FiniteMap.find?_insert_self, Option.some.injEq] at hfound
          subst hfound
          exact ⟨hlist, hfresh⟩
        · rw [FiniteMap.find?_insert_of_ne _ _ hns] at hfound
          exact hi.known ns' found hfound

/-- The object that is handled in the place of a target is the one from the beginning of the run,
and is as it was then unless it was handled already. -/
theorem Knows.scalingObject (hi : i.Knows c₀ seen) (hc : c.Filed)
    (htouches : TouchesOnly (· ∈ seen) c₀ c) (halike : Alike c₀ c) {target : Manifest}
    (htarget : c₀.object? target.key = some target) :
    ∃ object i', i.scalingObject target c = ((object, i'), c) ∧ i'.Knows c₀ seen
      ∧ SameOffScaling (c₀.standIn target) object
      ∧ (object.key ∉ seen → c₀.object? object.key = some object) := by
  unfold AutoscalerIndex.scalingObject
  by_cases hns : target.isAutoscaler = true ∨ target.namespaceName = ""
  · have hstand : c₀.standIn target = target := by rw [Cluster.standIn, if_pos hns]
    rw [if_pos hns, hstand]
    exact ⟨target, i, rfl, hi, .refl target, fun _ => htarget⟩
  · rw [if_neg hns]
    obtain ⟨found, i', hrun, hi', hlist, hfresh⟩ :=
      hi.autoscalersIn hc htouches halike target.namespaceName
    have hstand := standIn_of_forall₂ hlist (.refl target) hns
    refine ⟨(found.find? (governs · target)).getD target, i', ?_, hi', hstand, ?_⟩
    · simp only [bind_apply, hrun]
      rfl
    · cases hfind : found.find? (governs · target) with
      | none => exact fun _ => htarget
      | some a => exact hfresh a (List.mem_of_find?_eq_some hfind)

end AutoscalerIndex

/-! ### The loop -/

/-- What was done to one object in a run. -/
structure Step where
  object : Manifest
  impacted : List ImpactedObject
  excluded : List ExcludedObject

/-- In a run from `c₀` to `c'` the object was handled at one moment: it was then as in the
beginning, and was left as it then came out. -/
def Step.DoneIn (t : Transition) (store : Bool) (h : History) (c₀ c' : Cluster) (s : Step) : Prop :=
  ∃ c : Cluster, c.Keyed ∧ c.refusedPatches = c₀.refusedPatches
    ∧ c₀.object? s.object.key = some s.object ∧ c.object? s.object.key = some s.object
    ∧ (t.applyTo store h s.object c).1 = (s.impacted, s.excluded)
    ∧ c'.object? s.object.key = (t.applyTo store h s.object c).2.object? s.object.key

/-- The keys of the objects that were handled. -/
def stepKeys (steps : List Step) : List ObjectKey :=
  steps.map (·.object.key)

/-- The rest of a run that started at `c₀`, from `c` on, handled these objects and ended at `c'`. -/
structure Ran (t : Transition) (store : Bool) (h : History) (c₀ : Cluster) (seen : List ObjectKey)
    (targets : List Manifest) (c : Cluster) (steps : List Step) (c' : Cluster) : Prop where
  keyed : c'.Keyed
  touches : TouchesOnly (· ∈ stepKeys steps) c c'
  alike : t ≠ .delete → Alike c₀ c'
  nodup : (stepKeys steps).Nodup
  unseen : ∀ k ∈ stepKeys steps, k ∉ seen
  done : ∀ s ∈ steps, s.DoneIn t store h c₀ c'
  targeted : ∀ k ∈ stepKeys steps, ∃ target ∈ targets, (t.standIn c₀ target).key = k
  complete : ∀ target ∈ targets,
    (t.standIn c₀ target).key ∈ seen ∨ (t.standIn c₀ target).key ∈ stepKeys steps

/-- Handling one object keeps the invariant. -/
theorem Running.handle (hinv : Running t c₀ seen i c) {m : Manifest}
    (hm : c.object? m.key = some m) (store : Bool) (h : History) :
    Running t c₀ (m.key :: seen) i (t.applyTo store h m c).2 where
  keyed := Transition.applyTo_keyed hinv.keyed hm t store h
  touches := by
    have hbefore := hinv.touches.mono fun k hk => List.mem_cons_of_mem m.key hk
    have hstep := Transition.applyTo_touchesOnly (hinv.keyed.addresses hm) t store h
    exact hbefore.trans (hstep.mono fun k hk => by rw [hk]; exact List.mem_cons_self)
  alike := fun ht =>
    (hinv.alike ht).trans (Transition.applyTo_alike hinv.keyed.addressable hm ht store h)
  index := hinv.index.cons m.key

/-- The object that is handled in the place of a target, and the index afterwards. -/
def Transition.scalingObject (t : Transition) (i : AutoscalerIndex) (target : Manifest) :
    StateM Cluster (Manifest × AutoscalerIndex) :=
  if t = .delete then pure (target, i) else i.scalingObject target

theorem Transition.scalingObject_running (hinv : Running t c₀ seen i c) {target : Manifest}
    (htarget : c₀.object? target.key = some target) :
    ∃ object i', t.scalingObject i target c = ((object, i'), c)
      ∧ Running t c₀ seen i' c ∧ (t.standIn c₀ target).key = object.key
      ∧ (object.key ∉ seen → c₀.object? object.key = some object) := by
  unfold scalingObject standIn
  by_cases ht : t = .delete
  · rw [if_pos ht, if_pos ht]
    exact ⟨target, i, rfl, hinv, rfl, fun _ => htarget⟩
  · obtain ⟨object, i', hrun, hi', hsame, hfresh⟩ := hinv.index.scalingObject
      hinv.keyed.filed hinv.touches (hinv.alike ht) htarget
    rw [if_neg ht, if_neg ht]
    exact ⟨object, i', hrun, { hinv with index := hi' }, hsame.key_eq.symm, hfresh⟩

/-- What the loop does with the first target: an object that was handled before is passed over. -/
theorem Transition.runFrom_cons {target object : Manifest} {rest : List Manifest}
    {i' : AutoscalerIndex} (hobject : t.scalingObject i target c = ((object, i'), c))
    (report : Report) :
    t.runFrom store h (target :: rest) i seen report c
      = if object.key ∈ seen then t.runFrom store h rest i' seen report c
        else t.runFrom store h rest i' (object.key :: seen)
          (report.adding (t.applyTo store h object c).1.1 (t.applyTo store h object c).1.2)
          (t.applyTo store h object c).2 := by
  have hloop : t.runFrom store h (target :: rest) i seen report
      = (t.scalingObject i target >>= fun p =>
          if p.1.key ∈ seen then t.runFrom store h rest p.2 seen report
          else t.applyTo store h p.1 >>= fun r =>
            t.runFrom store h rest p.2 (p.1.key :: seen) (report.adding r.1 r.2)) := by
    cases t <;> rfl
  rw [hloop, bind_apply, hobject]
  dsimp only
  split <;> rfl

/-- A target in whose place an object is handled that was handled before. -/
theorem Ran.skip {target : Manifest} {rest : List Manifest} {steps : List Step} {c' : Cluster}
    (hran : Ran t store h c₀ seen rest c steps c') (hseen : (t.standIn c₀ target).key ∈ seen) :
    Ran t store h c₀ seen (target :: rest) c steps c' := by
  refine { hran with targeted := ?_, complete := ?_ }
  · intro k hk
    obtain ⟨m, hm, hkey⟩ := hran.targeted k hk
    exact ⟨m, List.mem_cons_of_mem _ hm, hkey⟩
  · intro m hm
    rcases List.mem_cons.1 hm with rfl | hm
    · exact .inl hseen
    · exact hran.complete m hm

/-- A target in whose place an object is handled now. -/
theorem Ran.handle {target object : Manifest} {rest : List Manifest} {steps : List Step}
    {c' : Cluster} (hinv : Running t c₀ seen i c) (hstand : (t.standIn c₀ target).key = object.key)
    (hseen : object.key ∉ seen) (hstart : c₀.object? object.key = some object)
    (hran : Ran t store h c₀ (object.key :: seen) rest (t.applyTo store h object c).2 steps c') :
    Ran t store h c₀ seen (target :: rest) c
      (⟨object, (t.applyTo store h object c).1.1, (t.applyTo store h object c).1.2⟩ :: steps)
      c' := by
  have hnow : c.object? object.key = some object :=
    (hinv.touches.object?_eq _ hseen).trans hstart
  have hkept : object.key ∉ stepKeys steps :=
    fun hk => hran.unseen _ hk List.mem_cons_self
  have hkeys : ∀ impacted excluded, stepKeys (⟨object, impacted, excluded⟩ :: steps)
      = object.key :: stepKeys steps := fun _ _ => rfl
  refine ⟨hran.keyed, ?_, hran.alike, ?_, ?_, ?_, ?_, ?_⟩
  · have hhead := Transition.applyTo_touchesOnly (hinv.keyed.addresses hnow) t store h
    rw [hkeys]
    exact (hhead.mono fun k hk => by rw [hk]; exact List.mem_cons_self).trans
      (hran.touches.mono fun k hk => List.mem_cons_of_mem _ hk)
  · rw [hkeys]
    exact List.nodup_cons.2 ⟨hkept, hran.nodup⟩
  · intro k hk
    rw [hkeys] at hk
    rcases List.mem_cons.1 hk with rfl | hk
    · exact hseen
    · exact fun hks => hran.unseen k hk (List.mem_cons_of_mem _ hks)
  · intro s hs
    rcases List.mem_cons.1 hs with rfl | hs
    · exact ⟨c, hinv.keyed, hinv.touches.refusedPatches_eq, hstart, hnow, rfl,
        hran.touches.object?_eq _ hkept⟩
    · exact hran.done s hs
  · intro k hk
    rw [hkeys] at hk
    rcases List.mem_cons.1 hk with rfl | hk
    · exact ⟨target, List.mem_cons_self, hstand⟩
    · obtain ⟨m, hm, hkey⟩ := hran.targeted k hk
      exact ⟨m, List.mem_cons_of_mem _ hm, hkey⟩
  · intro m hm
    rw [hkeys]
    rcases List.mem_cons.1 hm with rfl | hm
    · exact .inr (by rw [hstand]; exact List.mem_cons_self)
    · rcases hran.complete m hm with hks | hks
      · rcases List.mem_cons.1 hks with hk | hks
        · exact .inr (by rw [hk]; exact List.mem_cons_self)
        · exact .inl hks
      · exact .inr (List.mem_cons_of_mem _ hks)

/-- **The run lemma.**  From a state in which the invariant holds the rest of a run handles the rest
of the targets, each once and as it was in the beginning, and reports what it did. -/
theorem Transition.runFrom_ran (t : Transition) (store : Bool) (h : History)
    (targets : List Manifest) (htargets : ∀ m ∈ targets, c₀.object? m.key = some m)
    (hinv : Running t c₀ seen i c) (report : Report) :
    ∃ steps c', t.runFrom store h targets i seen report c
        = (report.adding (steps.flatMap (·.impacted)) (steps.flatMap (·.excluded)), c')
      ∧ Ran t store h c₀ seen targets c steps c' := by
  induction targets generalizing i seen c report with
  | nil =>
      refine ⟨[], c, by simp [runFrom, pure_apply, Report.adding], ?_⟩
      exact ⟨hinv.keyed, .refl _ c, hinv.alike, List.nodup_nil, by simp [stepKeys], by simp,
        by simp [stepKeys], by simp⟩
  | cons target rest ih =>
      have hrest : ∀ m ∈ rest, c₀.object? m.key = some m :=
        fun m hm => htargets m (List.mem_cons_of_mem _ hm)
      obtain ⟨object, i', hobject, hinv', hstand, hfresh⟩ :=
        scalingObject_running hinv (htargets target List.mem_cons_self)
      rw [runFrom_cons hobject]
      by_cases hseen : object.key ∈ seen
      · -- The object was handled before.
        rw [if_pos hseen]
        obtain ⟨steps, c', hrun, hran⟩ := ih hrest hinv' report
        exact ⟨steps, c', hrun, hran.skip (hstand ▸ hseen)⟩
      · rw [if_neg hseen]
        have hnow : c.object? object.key = some object :=
          (hinv.touches.object?_eq _ hseen).trans (hfresh hseen)
        obtain ⟨steps, c', hrun, hran⟩ := ih hrest (hinv'.handle hnow store h)
          (report.adding (t.applyTo store h object c).1.1 (t.applyTo store h object c).1.2)
        refine ⟨_, c', ?_, .handle hinv hstand hseen (hfresh hseen) hran⟩
        rw [hrun]
        simp [Report.adding, List.append_assoc]

/-! ### Whole runs -/

theorem Running.start (t : Transition) (hc : c.Keyed) : Running t c [] {} c :=
  ⟨hc, .refl _ c, fun _ => .refl c, .empty c []⟩

/-- A run handles the targets, and reports what it did. -/
theorem Transition.run_ran (hc : c.Keyed) (t : Transition) (store : Bool) (h : History)
    {targets : List Manifest} (htargets : ∀ m ∈ targets, c.object? m.key = some m) :
    ∃ steps, (t.run store targets h c).1
        = { action := t.action, impacted := steps.flatMap (·.impacted),
            excluded := steps.flatMap (·.excluded) }
      ∧ Ran t store h c [] targets c steps (t.run store targets h c).2 := by
  obtain ⟨steps, c', hrun, hran⟩ :=
    runFrom_ran t store h targets htargets (.start t hc) { action := t.action }
  refine ⟨steps, ?_, ?_⟩
  · rw [run, hrun]
    simp [Report.adding]
  · rw [run, hrun]
    exact hran

/-- What a run that leaves resources alone made of an object it handled. -/
theorem Step.DoneIn.effect {s : Step} {c' : Cluster} (hdone : s.DoneIn t store h c₀ c')
    (ht : t.KeepsResources) :
    Effect t store h (c₀.Accepts s.object.key) s.object (c'.object? s.object.key) s.impacted
      s.excluded := by
  obtain ⟨c, hc, hrefused, -, hm, hout, hafter⟩ := hdone
  have heffect := (Transition.applyTo_handled hc.addressable hm ht store h).effect
  have haccepts : c.Accepts s.object.key = c₀.Accepts s.object.key := by
    unfold Accepts
    rw [hrefused]
  rw [hout, ← hafter, haccepts] at heffect
  exact heffect

theorem object?_transition_standIn (hc : c.Keyed) {target : Manifest}
    (htarget : c.object? target.key = some target) :
    c.object? (t.standIn c target).key = some (t.standIn c target) := by
  unfold Transition.standIn
  split
  · exact htarget
  · exact object?_standIn hc htarget

/-- What is handled is what stands in for a target. -/
theorem Ran.object_eq {targets : List Manifest} {steps : List Step} {c c' : Cluster}
    (hran : Ran t store h c₀ seen targets c steps c') (hc₀ : c₀.Keyed)
    (htargets : ∀ m ∈ targets, c₀.object? m.key = some m) {s : Step} (hs : s ∈ steps) :
    ∃ target ∈ targets, t.standIn c₀ target = s.object := by
  obtain ⟨target, htarget, hkey⟩ := hran.targeted s.object.key (List.mem_map_of_mem hs)
  obtain ⟨-, -, -, hobject, -⟩ := hran.done s hs
  have hheld := object?_transition_standIn (t := t) hc₀ (htargets target htarget)
  rw [hkey, hobject, Option.some.injEq] at hheld
  exact ⟨target, htarget, hheld.symm⟩

/-- What is handled under the key of an object is that object, as it was in the beginning. -/
theorem Ran.object_eq_of_key {targets : List Manifest} {steps : List Step} {c c' : Cluster}
    (hran : Ran t store h c₀ seen targets c steps c') {s : Step} (hs : s ∈ steps) {k : ObjectKey}
    {m : Manifest} (hm : c₀.object? k = some m) (hkey : s.object.key = k) : s.object = m := by
  obtain ⟨-, -, -, hobject, -⟩ := hran.done s hs
  rw [hkey, hm, Option.some.injEq] at hobject
  exact hobject.symm

end Slumber
